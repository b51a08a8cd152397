/-!
# Natural numbers

`m ^ n` and the zero from which sums start are those of the core library everywhere, also where numbers are known to
be a semiring with its own. So a definition means the same wherever it is read.
-/

attribute [instance (high), default_instance high] instPowNat
attribute [instance (high)] Zero.ofOfNat0
