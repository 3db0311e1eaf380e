import RuleLabels.Files.Location
import RuleLabels.Files.Tables
import RuleLabels.Json.Write
import RuleLabels.Text.Utf8

/-!
# Files

A tree of folders and files, with the few operations that stores and imports need and the reasons for
which they fail. Documents and databases that stores keep in files are held as what they are; a
document is also readable as its text. Every file has a number, by which one that is open is found again
after it was removed.
-/

-- A sum begins with the numeral, whatever other zeros of the natural numbers are known.
attribute [local instance (1100)] Zero.ofOfNat0

namespace RuleLabels

/-! ## Faults -/

/-- Why an operation on a file fails. -/
inductive FileFault where
  | notFound
  | alreadyThere
  | notADirectory
  | isADirectory
  | nameTooLong
  | zeroInName
  | nameWithoutBytes (e : Text.EncodeError)
  deriving DecidableEq

/-- A failed operation on a file. -/
structure FileError where
  fault : FileFault
  path : String
  deriving DecidableEq

/-- The wording of a failed operation: where the name itself is of no use, it is left out. -/
def FileError.text (e : FileError) : String :=
  let named (wording : String) : String := wording ++ ": " ++ Text.quoted e.path
  match e.fault with
  | .notFound => named "[Errno 2] No such file or directory"
  | .alreadyThere => named "[Errno 17] File exists"
  | .notADirectory => named "[Errno 20] Not a directory"
  | .isADirectory => named "[Errno 21] Is a directory"
  | .nameTooLong => named "[Errno 36] File name too long"
  | .zeroInName => "embedded null byte"
  | .nameWithoutBytes e => e.text

/-! ## Contents -/

/-- What a file holds. -/
inductive Content where
  | text (s : String)
  | bytes (b : List UInt8)
  | document (v : Value)
  | tables (t : Tables)

/-- Every end of a line as a line feed. -/
def plainLines : List Char → List Char
  | '\r' :: '\n' :: rest => '\n' :: plainLines rest
  | '\r' :: rest => '\n' :: plainLines rest
  | c :: rest => c :: plainLines rest
  | [] => []

/-- The text of a file, with every end of a line as a line feed. A database is refused at its first
byte, since it is no text. -/
def Content.decoded : Content → Except Text.Utf8Error String
  | .text s => .ok (String.ofList (plainLines s.toList))
  | .bytes b => (Text.decodeUtf8 b).map fun s => String.ofList (plainLines s.toList)
  | .document v => .ok (Json.indented v)
  | .tables _ => .error ⟨.badStart, 0, 1, 0x80⟩

/-- A folder or a file with its number. -/
inductive Entry where
  | folder
  | file (number : Nat) (c : Content)

/-- The number of an entry; a folder has none. -/
def Entry.number? : Entry → Option Nat
  | folder => none
  | file number _ => some number

/-- What the file with a number holds, if the entry is that file. -/
def Entry.contentIf? (number : Nat) : Entry → Option Content
  | folder => none
  | file n c => if n = number then some c else none

/-- The names of the folders from the folder at hand down to an entry. -/
abbrev FileKey := List String

namespace Files

/-- No two entries have one key, and no two files one number; all numbers are below a bound. -/
structure Numbered (entries : List (FileKey × Entry)) (next : Nat) : Prop where
  apart : entries.Pairwise fun x y => x.1 ≠ y.1 ∧ ∀ n, x.2.number? = some n → y.2.number? ≠ some n
  below : ∀ x ∈ entries, ∀ n, x.2.number? = some n → n < next

/-- The entries with one set: in its place if its key is there, and last if the key is new. -/
def putEntry (key : FileKey) (e : Entry) (entries : List (FileKey × Entry)) : List (FileKey × Entry) :=
  if (entries.lookup key).isSome then entries.map fun x => if x.1 = key then (key, e) else x
  else entries ++ [(key, e)]

/-- An entry may be set whose number, if it has one, is no other entry's. -/
theorem Numbered.putEntry {entries : List (FileKey × Entry)} {next next' : Nat} (h : Numbered entries next)
    (hle : next ≤ next') {key : FileKey} {e : Entry} (hlt : ∀ n, e.number? = some n → n < next')
    (hnew : ∀ n, e.number? = some n → ∀ x ∈ entries, x.1 ≠ key → x.2.number? ≠ some n) :
    Numbered (putEntry key e entries) next' := by
  rw [Files.putEntry]
  split
  · refine ⟨List.pairwise_map.2 (h.apart.imp_of_mem fun {x y} hx hy hxy => ?_), ?_⟩
    · by_cases hkx : x.1 = key
      · have hky : y.1 ≠ key := fun hky => hxy.1 (hkx.trans hky.symm)
        rw [if_pos hkx, if_neg hky]
        exact ⟨Ne.symm hky, fun n hn => hnew n hn y hy hky⟩
      · by_cases hky : y.1 = key
        · rw [if_neg hkx, if_pos hky]
          exact ⟨hkx, fun n hx' hn => hnew n hn x hx hkx hx'⟩
        · rw [if_neg hkx, if_neg hky]
          exact hxy
    · intro x hx n hn
      obtain ⟨y, hy, rfl⟩ := List.mem_map.1 hx
      split at hn
      · exact hlt n hn
      · exact Nat.lt_of_lt_of_le (h.below y hy n hn) hle
  · rename_i hlookup
    have hfresh : ∀ x ∈ entries, x.1 ≠ key := by
      intro x hx hk
      exact hlookup (List.lookup_isSome_iff.2 ⟨x, hx, by simp [hk]⟩)
    refine ⟨List.pairwise_append.2 ⟨h.apart, List.pairwise_singleton _ _, ?_⟩, ?_⟩
    · intro x hx y hy
      cases List.mem_singleton.1 hy
      exact ⟨hfresh x hx, fun n hx' hn => hnew n hn x hx (hfresh x hx) hx'⟩
    · intro x hx n hn
      rcases List.mem_append.1 hx with hx | hx
      · exact Nat.lt_of_lt_of_le (h.below x hx n hn) hle
      · cases List.mem_singleton.1 hx
        exact hlt n hn

/-- An entry that is found has its key. -/
theorem mem_of_lookup {entries : List (FileKey × Entry)} {key : FileKey} {e : Entry}
    (h : entries.lookup key = some e) : (key, e) ∈ entries := by
  obtain ⟨before, after, rfl, -⟩ := List.lookup_eq_some_iff.1 h
  simp

/-- Entries of one number are the same. -/
theorem Numbered.eq_of_number {entries : List (FileKey × Entry)} {next : Nat} (h : Numbered entries next)
    {x y : FileKey × Entry} (hx : x ∈ entries) (hy : y ∈ entries) {n : Nat} (hxn : x.2.number? = some n)
    (hyn : y.2.number? = some n) : x = y := by
  have hapart := h.apart
  clear h
  induction entries with
  | nil => exact nomatch hx
  | cons first rest ih =>
    obtain ⟨hfirst, hrest⟩ := List.pairwise_cons.1 hapart
    rcases List.mem_cons.1 hx with rfl | hxr
    · rcases List.mem_cons.1 hy with rfl | hyr
      · rfl
      · exact absurd hyn ((hfirst y hyr).2 n hxn)
    · rcases List.mem_cons.1 hy with rfl | hyr
      · exact absurd hxn ((hfirst x hxr).2 n hyn)
      · exact ih hxr hyr hrest

end Files

/-- The folders and files that there are besides the folder at hand and those above it, the files that
were removed, and the number of the next new file. -/
structure Files where
  entries : List (FileKey × Entry)
  removed : List (Nat × Content)
  next : Nat
  numbered : Files.Numbered entries next

namespace Files

/-- No folders and no files. -/
def empty : Files := ⟨[], [], 0, ⟨.nil, fun _ h => nomatch h⟩⟩

instance : Inhabited Files := ⟨empty⟩

/-- The folder at hand, the folders above it and the roots are always there. -/
def isGiven (key : FileKey) : Bool := key.all fun p => p = ".." || p = "/" || p = "//"

/-- The entry with a key. -/
def entryAt? (fs : Files) (key : FileKey) : Option Entry :=
  if isGiven key then some .folder else fs.entries.lookup key

/-- A file that is found is one of the entries. -/
theorem lookup_of_entryAt? {fs : Files} {key : FileKey} {number : Nat} {c : Content}
    (h : fs.entryAt? key = some (.file number c)) : fs.entries.lookup key = some (.file number c) := by
  rw [entryAt?] at h
  split at h
  · exact nomatch h
  · exact h

/-- The entries with a folder. -/
def setFolder (fs : Files) (key : FileKey) : Files :=
  { fs with
    entries := putEntry key .folder fs.entries
    numbered := fs.numbered.putEntry (Nat.le_refl _) (fun _ h => nomatch h) fun _ h => nomatch h }

/-- A file with a content: the one that is there, or a new one. -/
def setContent (fs : Files) (key : FileKey) (c : Content) : Files :=
  match h : fs.entryAt? key with
  | some (.file number _) =>
    { fs with
      entries := putEntry key (.file number c) fs.entries
      numbered := by
        have hmem := mem_of_lookup (lookup_of_entryAt? h)
        refine fs.numbered.putEntry (Nat.le_refl _) ?_ ?_
        · intro n hn
          cases hn
          exact fs.numbered.below _ hmem _ rfl
        · intro n hn x hx hk hxn
          cases hn
          exact hk (congrArg Prod.fst (fs.numbered.eq_of_number hx hmem hxn rfl)) }
  | _ =>
    { fs with
      entries := putEntry key (.file fs.next c) fs.entries
      next := fs.next + 1
      numbered := by
        refine fs.numbered.putEntry (Nat.le_succ _) ?_ ?_
        · intro n hn
          cases hn
          exact Nat.lt_succ_self _
        · intro n hn x hx _ hxn
          cases hn
          exact Nat.lt_irrefl _ (fs.numbered.below x hx _ hxn) }

/-! ## Names -/

/-- The most bytes of one part of a name. -/
def maxPartBytes : Nat := 255

/-- The most bytes of a whole name. -/
def maxNameBytes : Nat := 4095

/-- A half of a character that a name may hold, since it stands for a byte. -/
def isByteHalf (c : Char) : Bool := (Text.halfCode? c).any fun n => 0xDC80 ≤ n && n < 0xDD00

/-- The number of bytes of a name. -/
def nameBytes (s : String) : Nat :=
  (s.toList.map fun c => if isByteHalf c then 1 else c.utf8Size).sum

/-- The reason to refuse a name whatever files there are. -/
@[irreducible]
def nameFault? (l : Location) : Option FileFault :=
  let cs := l.text.toList
  match Text.encodeError? (String.ofList (cs.map fun c => if isByteHalf c then '?' else c)) with
  | some e => some (.nameWithoutBytes e)
  | none =>
    if cs.contains '\x00' then some .zeroInName
    else if maxNameBytes < nameBytes l.text then some .nameTooLong
    else none

/-- The folder above. -/
def stepUp (key : FileKey) : FileKey :=
  match key.reverse with
  | [] => [".."]
  | last :: before =>
    if last = "/" ∨ last = "//" then key
    else if last = ".." then key ++ [".."]
    else before.reverse

/-- Follows the parts of a name from a folder on, as far as only the last part may be missing. -/
def follow (fs : Files) : FileKey → List String → Except FileFault FileKey
  | key, [] => .ok key
  | key, part :: rest =>
    match fs.entryAt? key with
    | none => .error .notFound
    | some (.file ..) => .error .notADirectory
    | some .folder =>
      if maxPartBytes < nameBytes part then .error .nameTooLong
      else follow fs (if part = ".." then stepUp key else key ++ [part]) rest

/-- The key of the start of a location. -/
def startKey (l : Location) : FileKey := if l.root = "" then [] else [l.root]

/-- The key of a location. -/
def key (fs : Files) (l : Location) : Except FileFault FileKey :=
  match nameFault? l with
  | some f => .error f
  | none => fs.follow (startKey l) l.parts

/-- The entry at a location. -/
def find (fs : Files) (l : Location) : Except FileFault Entry := do
  match fs.entryAt? (← fs.key l) with
  | some e => .ok e
  | none => .error .notFound

/-- Something is there. -/
def has (fs : Files) (l : Location) : Bool := (fs.find l).isOk

/-- A fault at a location. -/
def fault {α : Type} (l : Location) (f : FileFault) : Except FileError α := .error ⟨f, l.text⟩

/-! ## Reading -/

/-- The content of a file. -/
def content (fs : Files) (l : Location) : Except FileError Content :=
  match fs.find l with
  | .error f => fault l f
  | .ok .folder => fault l .isADirectory
  | .ok (.file _ c) => .ok c

/-- The number of the file at a location. -/
def numberAt? (fs : Files) (l : Location) : Option Nat :=
  match fs.find l with
  | .ok (.file number _) => some number
  | _ => none

/-- The content of the file with a number, even if the file was removed. -/
def contentOf? (fs : Files) (number : Nat) : Option Content :=
  (fs.entries.findSome? fun x => x.2.contentIf? number).or (fs.removed.lookup number)

/-- The names in a folder, sorted. -/
def names (fs : Files) (l : Location) : Except FileError (List String) :=
  match fs.find l, fs.key l with
  | .ok .folder, .ok key =>
    let inside := fs.entries.filterMap fun (k, _) =>
      if k.dropLast = key ∧ k ≠ key then k.getLast? else none
    .ok (inside.mergeSort fun a b => a ≤ b)
  | .ok (.file ..), _ => fault l .notADirectory
  | .error f, _ => fault l f
  | _, .error f => fault l f

/-! ## Writing -/

/-- Gives a file a content; the folder that holds it has to be there. -/
def write (fs : Files) (l : Location) (c : Content) : Except FileError Files :=
  match fs.key l with
  | .error f => fault l f
  | .ok key =>
    match fs.entryAt? key with
    | some .folder => fault l .isADirectory
    | _ => .ok (fs.setContent key c)

/-- Removes a file. -/
def remove (fs : Files) (l : Location) : Except FileError Files :=
  match fs.key l with
  | .error f => fault l f
  | .ok key =>
    match fs.entryAt? key with
    | none => fault l .notFound
    | some .folder => fault l .isADirectory
    | some (.file number c) =>
      .ok { fs with
        entries := fs.entries.filter fun x => x.1 ≠ key
        removed := (number, c) :: fs.removed
        numbered := ⟨fs.numbered.apart.filter _, fun x hx =>
          fs.numbered.below x (List.mem_filter.1 hx).1⟩ }

/-! ## Drafts -/

/-- Keys beside the file with a key, one more than there are entries. -/
def draftKeys (fs : Files) (key : FileKey) : List FileKey :=
  (List.range (fs.entries.length + 1)).map fun i =>
    key.dropLast ++ ["." ++ key.getLast?.getD "" ++ "." ++ i.repr]

/-- The key of a new draft of the file with a key: the first that no entry has. -/
def draftKey (fs : Files) (key : FileKey) : FileKey :=
  ((fs.draftKeys key).find? fun k => (fs.entries.lookup k).isNone).getD key

/-- Makes an empty draft of a file, which is found by its key; the folder that holds the file has to be
there. -/
def makeDraft (fs : Files) (l : Location) : Except FileError (FileKey × Files) :=
  match fs.key l with
  | .error f => fault l f
  | .ok key => .ok (fs.draftKey key, fs.setContent (fs.draftKey key) (.text ""))

/-- The file with a key that another entry is put at, if there is one: it is removed. -/
def displaced (fs : Files) (key : FileKey) : List (Nat × Content) :=
  match fs.entryAt? key with
  | some (.file number c) => [(number, c)]
  | _ => []

/-- Puts the entry with one key at another. -/
def move (fs : Files) (source target : FileKey) : Files :=
  match h : fs.entries.lookup source with
  | none => fs
  | some e =>
    { fs with
      entries := putEntry target e (fs.entries.filter fun x => x.1 ≠ source)
      removed := fs.displaced target ++ fs.removed
      numbered := by
        have hmem := mem_of_lookup h
        have hrest : Numbered (fs.entries.filter fun x => x.1 ≠ source) fs.next :=
          ⟨fs.numbered.apart.filter _, fun x hx => fs.numbered.below x (List.mem_filter.1 hx).1⟩
        refine hrest.putEntry (Nat.le_refl _) (fs.numbered.below _ hmem) ?_
        intro n hn x hx _ hxn
        obtain ⟨hx, hne⟩ := List.mem_filter.1 hx
        cases fs.numbered.eq_of_number hx hmem hxn hn
        exact of_decide_eq_true hne rfl }

/-- Puts a draft in the place of a file. -/
def replace (fs : Files) (draft : FileKey) (l : Location) : Except FileError Files :=
  match fs.key l with
  | .error f => fault l f
  | .ok key =>
    match fs.entryAt? key with
    | some .folder => fault l .isADirectory
    | _ => .ok (fs.move draft key)

/-- Removes a draft, if it is there. -/
def discard (fs : Files) (draft : FileKey) : Files :=
  { fs with
    entries := fs.entries.filter fun x => x.1 ≠ draft
    numbered := ⟨fs.numbered.apart.filter _, fun x hx => fs.numbered.below x (List.mem_filter.1 hx).1⟩ }

/-! ## Folders -/

/-- Makes the folders that are missing on the way from a folder along some names; a fault comes with the
names behind the one at which it shows and with whether a folder was missing before. -/
def makeAlong (fs : Files) (missing : Bool) :
    FileKey → List String → Except (FileFault × List String × Bool × Files) Files
  | _, [] => .ok fs
  | key, part :: rest =>
    if maxPartBytes < nameBytes part then .error (.nameTooLong, rest, missing, fs)
    else
      let next := if part = ".." then stepUp key else key ++ [part]
      match fs.entryAt? next with
      | some .folder => makeAlong fs missing next rest
      | some (.file ..) =>
        .error (if rest.isEmpty then .alreadyThere else .notADirectory, [], missing, fs)
      | none => makeAlong (fs.setFolder next) true next rest

/-- Makes a folder and those above it, as far as they are missing. Those made before a fault stay. -/
def makeFolder (fs : Files) (l : Location) : Except (FileError × Files) Files :=
  match nameFault? l with
  | some f => .error (⟨f, l.text⟩, fs)
  | none =>
    match fs.makeAlong false (startKey l) l.parts with
    | .ok fs => .ok fs
    | .error (f, behind, missing, fs) =>
      let reached := if missing then { l with parts := l.parts.take (l.parts.length - behind.length) } else l
      .error (⟨f, reached.text⟩, fs)

/-- Gives a file a content, and makes the folders that are missing. -/
def place (fs : Files) (l : Location) (c : Content) : Except (FileError × Files) Files :=
  match fs.makeFolder l.parent with
  | .error e => .error e
  | .ok fs =>
    match fs.write l c with
    | .ok fs => .ok fs
    | .error e => .error (e, fs)

end Files

end RuleLabels
