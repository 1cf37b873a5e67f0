/-!
# Powers of integers

Powers of integers are those of the core library, whatever other structures are known for them.
-/
namespace ReleasePackaging.Number

@[default_instance 20001]
instance (priority := high) natPow : Pow Nat Nat := instPowNat

@[default_instance 20000]
instance (priority := high) intPow : Pow Int Nat := instPowNat

end ReleasePackaging.Number
