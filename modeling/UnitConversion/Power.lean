/-!
# Powers with natural exponents

On the naturals and the integers `a ^ n` is the repeated product of the core library, also where an
algebraic hierarchy offers another one, so that a power reads the same in the definitions and in the
statements about them.
-/

attribute [instance (20000), default_instance 20000] instPowNat
