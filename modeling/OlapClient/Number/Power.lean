/-!
# Powers of numbers

A power with a natural number as its exponent is the one of the standard library, whatever
algebra a module imports beside it.
-/

attribute [instance (high), default_instance (high)] instPowNat
