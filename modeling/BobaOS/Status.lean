import Mathlib.Algebra.Group.Int.Defs
import Mathlib.Algebra.GroupWithZero.Nat

/-!
# Status codes

The error numbers of `status.h`. A function reports an error by returning the
negated number in an `int`; zero is success and every caller tests for a
negative value.
-/

namespace BobaOS

/-- The value a function returns where the source returns `int`. -/
abbrev Code := Int

def SUCCESS : Code := 0
def ENMEM : Code := 1
def EIO : Code := 2
def EIARG : Code := 3
def ENFOUND : Code := 4
def EIUSE : Code := 5
def EOF : Code := 6
def EFSYSTEM : Code := 7
def EWMODE : Code := 8
def EHARDWARE : Code := 9
def ENOPEN : Code := 10
def EFORMAT : Code := 11
def EDISKSPACE : Code := 12
def ELONG : Code := 13
def ENSPACE : Code := 14
def ENIMPLEMENTED : Code := 255

end BobaOS
