/-! Bounds of machine integers: each is one more than the largest value. -/

namespace PageMarks.Bound

def word : Nat := 0x100000000

def size : Nat := 0x10000000000000000

def long : Int := 0x8000000000000000

end PageMarks.Bound
