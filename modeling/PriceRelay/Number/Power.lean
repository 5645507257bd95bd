/-!
Powers of numbers are the ones of the core language, also beside libraries that have powers of their
own.
-/

attribute [instance (2000), default_instance (20000)] instPowNat
