/-!
Unix seconds in 64 signed bits. Sums and differences that leave the range stop at its ends.
-/
namespace Muster.Time

/-- The least and the greatest number of 64 signed bits. -/
def leastSecond64 : Int := -9223372036854775808
def greatestSecond64 : Int := 9223372036854775807

def clamp64 (n : Int) : Int :=
  max leastSecond64 (min greatestSecond64 n)

def distance64 (a b : Int) : Int :=
  clamp64 (clamp64 (a - b)).natAbs

/-- A time moved by a number of seconds. -/
def shift64 (time seconds : Int) : Int :=
  clamp64 (time + seconds)

end Muster.Time
