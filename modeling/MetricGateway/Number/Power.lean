/-!
# Powers of numbers

A power of a natural number or an integer is the one of the core library, also where the powers of
algebra are in scope. So `2 ^ 32` is the same term in a definition and in a theorem about it,
whatever the module of the theorem imports.
-/

attribute [instance (high + 1), default_instance (high + 1)] instPowNat
