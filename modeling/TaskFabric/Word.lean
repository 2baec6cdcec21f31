/-! Bounds of machine words as numbers. The sizes of unsigned words are those of the word types
themselves, such as `UInt64.size`.
-/

namespace TaskFabric

/-- The first integer that a signed word of 64 bits cannot hold; its negative is the least one that
it can hold.
-/
abbrev signedBound : Int := 9223372036854775808

/-- The first integer that no word of 64 bits can hold. -/
abbrev unsignedBound : Int := 18446744073709551616

/-- Whether a signed word of 64 bits can hold an integer. -/
abbrev FitsSigned (i : Int) : Prop := -signedBound ≤ i ∧ i < signedBound

end TaskFabric
