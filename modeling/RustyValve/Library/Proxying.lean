import Mathlib.Data.List.Nodup
import Mathlib.Logic.Relation

-- What a proxy does with one connection: it inspects it, names its destination, passes it through
-- a queue and tries the addresses that serve the destination until one takes it.
structure Proxy (I D A : Type*) where
  opens : I → I → Prop
  names : I → D → Prop
  serves : D → A → Prop

namespace Proxy

inductive Stage (I D A : Type*) where
  | inspected (stage : I)
  | waiting (destination : D)
  | queued (destination : D)
  | received (destination : D)
  | trying (destination : D) (untried : List A)
  | bridged (backend : A)
  | closed (backend : A)
  | dropped

variable {I D A : Type*} (proxy : Proxy I D A)

inductive Next : Stage I D A → Stage I D A → Prop where
  | opened {i j : I} (h : proxy.opens i j) : Next (.inspected i) (.inspected j)
  | named {i : I} {d : D} (h : proxy.names i d) : Next (.inspected i) (.waiting d)
  | unnamed (i : I) : Next (.inspected i) .dropped
  | entered (d : D) : Next (.waiting d) (.queued d)
  | turnedAway (d : D) : Next (.waiting d) .dropped
  | taken (d : D) : Next (.queued d) (.received d)
  | discarded (d : D) : Next (.queued d) .dropped
  | dispatched {d : D} {candidates : List A} (hn : candidates.Nodup)
      (h : ∀ a, a ∈ candidates ↔ proxy.serves d a) : Next (.received d) (.trying d candidates)
  | refused (d : D) (a : A) (untried : List A) : Next (.trying d (a :: untried)) (.trying d untried)
  | connected (d : D) (a : A) (untried : List A) : Next (.trying d (a :: untried)) (.bridged a)
  | exhausted (d : D) : Next (.trying d []) .dropped
  | ended (a : A) : Next (.bridged a) (.closed a)

-- Sent to `d`, and to nothing that does not serve it.
inductive Stage.BoundFor (d : D) : Stage I D A → Prop where
  | waiting : BoundFor d (.waiting d)
  | queued : BoundFor d (.queued d)
  | received : BoundFor d (.received d)
  | trying {untried : List A} (h : ∀ a ∈ untried, proxy.serves d a) : BoundFor d (.trying d untried)
  | bridged {a : A} (h : proxy.serves d a) : BoundFor d (.bridged a)
  | closed {a : A} (h : proxy.serves d a) : BoundFor d (.closed a)
  | dropped : BoundFor d .dropped

variable {proxy} {x y : Stage I D A}

theorem next_boundFor {d : D} (h : Next proxy x y) (hx : x.BoundFor proxy d) :
    y.BoundFor proxy d := by
  cases h with
  | opened | named | unnamed => cases hx
  | entered => cases hx; exact .queued
  | turnedAway => exact .dropped
  | taken => cases hx; exact .received
  | discarded => exact .dropped
  | dispatched hn h => cases hx; exact .trying (fun a ha => (h a).mp ha)
  | refused _ a untried =>
    obtain _ | _ | _ | hs := hx
    exact .trying (fun b hb => hs b (List.mem_cons_of_mem _ hb))
  | connected _ a untried =>
    obtain _ | _ | _ | hs := hx
    exact .bridged (hs a List.mem_cons_self)
  | exhausted => exact .dropped
  | ended a =>
    obtain _ | _ | _ | _ | hs := hx
    exact .closed hs

theorem run_boundFor {d : D} (h : Relation.ReflTransGen (Next proxy) x y)
    (hx : x.BoundFor proxy d) : y.BoundFor proxy d := by
  induction h with
  | refl => exact hx
  | tail _ ht ih => exact next_boundFor ht ih

def Stage.TriesOnce : Stage I D A → Prop
  | .trying _ untried => untried.Nodup
  | _ => True

theorem next_triesOnce (h : Next proxy x y) (hx : x.TriesOnce) : y.TriesOnce := by
  cases h with
  | dispatched hn h => exact hn
  | refused => exact List.Nodup.of_cons hx
  | opened | named | unnamed | entered | turnedAway | taken | discarded | connected | exhausted
  | ended => trivial

theorem run_triesOnce (h : Relation.ReflTransGen (Next proxy) x y) (hx : x.TriesOnce) :
    y.TriesOnce := by
  induction h with
  | refl => exact hx
  | tail _ ht ih => exact next_triesOnce ht ih

theorem run_dropped (h : Relation.ReflTransGen (Next proxy) .dropped y) : y = .dropped := by
  induction h with
  | refl => rfl
  | tail _ ht ih =>
    subst ih
    cases ht

theorem run_closed {a : A} (h : Relation.ReflTransGen (Next proxy) (.closed a) y) :
    y = .closed a := by
  induction h with
  | refl => rfl
  | tail _ ht ih =>
    subst ih
    cases ht

theorem run_bridged {a : A} (h : Relation.ReflTransGen (Next proxy) (.bridged a) y) :
    y = .bridged a ∨ y = .closed a := by
  induction h with
  | refl => exact .inl rfl
  | tail _ ht ih =>
    rcases ih with rfl | rfl
    · cases ht
      exact .inr rfl
    · cases ht

-- From the tries on: what is tried later was still untried.
inductive Stage.Follows (d : D) (untried : List A) : Stage I D A → Prop where
  | trying {left : List A} (h : left <:+ untried) : Follows d untried (.trying d left)
  | bridged (a : A) : Follows d untried (.bridged a)
  | closed (a : A) : Follows d untried (.closed a)
  | dropped : Follows d untried .dropped

theorem next_follows {d : D} {untried : List A} (h : Next proxy x y)
    (hx : x.Follows d untried) : y.Follows d untried := by
  cases hx with
  | trying hl =>
    cases h with
    | refused _ a left => exact .trying ((List.suffix_cons a left).trans hl)
    | connected _ a => exact .bridged a
    | exhausted => exact .dropped
  | bridged =>
    cases h
    exact .closed _
  | closed => cases h
  | dropped => cases h

theorem run_follows {d : D} {untried : List A}
    (h : Relation.ReflTransGen (Next proxy) (.trying d untried) y) : y.Follows d untried := by
  induction h with
  | refl => exact .trying List.suffix_rfl
  | tail _ ht ih => exact next_follows ht ih

end Proxy
