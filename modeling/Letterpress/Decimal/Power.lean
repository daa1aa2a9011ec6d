/-! Powers of two and of ten, and the whole numbers that fit into a word of sixty-four bits. -/
namespace Letterpress.Decimal

def twoTo (n : Nat) : Nat := Nat.pow 2 n

def tenTo (n : Nat) : Nat := Nat.pow 10 n

def greatestWord : Nat := twoTo 64 - 1

def fitsWord (n : Nat) : Bool := n ≤ greatestWord

def greatestSigned : Int := twoTo 63 - 1

def leastSigned : Int := -twoTo 63

/-- Whether a number fits into a word with its sign. -/
def fitsSigned (n : Int) : Bool := leastSigned ≤ n && n ≤ greatestSigned

theorem twoTo_pos (n : Nat) : 0 < twoTo n := Nat.pow_pos (by decide)

theorem tenTo_pos (n : Nat) : 0 < tenTo n := Nat.pow_pos (by decide)

theorem twoTo_add (m n : Nat) : twoTo (m + n) = twoTo m * twoTo n := by
  simp only [twoTo]
  exact Nat.pow_add 2 m n

end Letterpress.Decimal
