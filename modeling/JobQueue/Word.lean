/-! The bounds of machine words. -/

namespace JobQueue.Word

/-- The greatest unsigned word of 16 bits. -/
abbrev max16 : Nat := 0xffff

/-- The greatest unsigned word of 32 bits. -/
abbrev max32 : Nat := 0xffffffff

/-- The greatest unsigned word of 64 bits. -/
abbrev max64 : Nat := 0xffffffffffffffff

/-- How many words of 64 bits there are. -/
abbrev count64 : Nat := 0x10000000000000000

/-- The greatest signed word of 32 bits. -/
abbrev signedMax32 : Nat := 0x7fffffff

/-- The greatest signed word of 64 bits. -/
abbrev signedMax64 : Nat := 0x7fffffffffffffff

/-- The least signed word of 32 bits. -/
abbrev signedMin32 : Int := -0x80000000

/-- The least signed word of 64 bits. -/
abbrev signedMin64 : Int := -0x8000000000000000

end JobQueue.Word
