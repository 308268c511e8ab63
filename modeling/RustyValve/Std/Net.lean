import RustyValve.Std.Text
import Mathlib.Tactic.Ring

namespace RustyValve

inductive IpAddr where
  | v4 (bits : BitVec 32)
  | v6 (bits : BitVec 128)
deriving DecidableEq, Repr

namespace IpAddr

def rank : IpAddr → ℕ
  | v4 bits => bits.toNat
  | v6 bits => 2 ^ 32 + bits.toNat

theorem rank_injective {a b : IpAddr} (h : a.rank = b.rank) : a = b := by
  cases a with
  | v4 a =>
    cases b with
    | v4 b => exact congrArg v4 (BitVec.eq_of_toNat_eq h)
    | v6 b =>
      have := a.isLt
      simp only [rank] at h
      omega
  | v6 a =>
    cases b with
    | v4 b =>
      have := b.isLt
      simp only [rank] at h
      omega
    | v6 b => exact congrArg v6 (BitVec.eq_of_toNat_eq (Nat.add_left_cancel h))

instance : Ord IpAddr := ⟨compareOn rank⟩

instance : Std.TransOrd IpAddr := inferInstanceAs (Std.TransCmp (compareOn rank))

instance : Std.LawfulEqOrd IpAddr where
  eq_of_compare h := rank_injective (Std.LawfulEqOrd.eq_of_compare h)

end IpAddr

structure SocketAddr where
  ip : IpAddr
  port : UInt16
deriving DecidableEq, Repr

end RustyValve
