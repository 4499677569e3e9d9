/-!
# Instances of numbers

Where the algebraic hierarchy is in scope, powers of numbers and the zeros of sums could also be
those of a monoid. Definitions use the instances of numbers with and without it.
-/

attribute [instance (high), default_instance 20000] instPowNat

attribute [instance (high)] Zero.ofOfNat0
