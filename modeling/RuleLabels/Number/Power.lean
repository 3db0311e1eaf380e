/-!
# Powers of numbers

A power is written in one way everywhere: `2 ^ n` is the power of natural numbers and of integers that
definitions compute with, also where a module sees the powers of other structures.
-/

attribute [instance (1100)] instPowNat
attribute [default_instance 20000] instPowNat
