/-!
# Instances for numbers

Powers of numbers and sums of lists are those of the core library in every module, also where a
library is imported that has more general ones.
-/

attribute [instance (20000), default_instance 20000] instPowNat

attribute [instance (20000)] Zero.ofOfNat0
