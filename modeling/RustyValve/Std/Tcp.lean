import RustyValve.Std.Net
import RustyValve.Errors

namespace RustyValve

structure TcpListener where
  localAddr : SocketAddr
deriving DecidableEq, Repr

-- How the n-th bind of the process ends, when it asks for that address.
abbrev BindOutcomes := ℕ → SocketAddr → Option Error

abbrev Binding := StateT ℕ (Except Error)

section Monad
variable {T U : Type} {x : Binding T} {attempt : ℕ}

theorem pure_run (t : T) (attempt : ℕ) : (pure t : Binding T) attempt = .ok (t,attempt) := rfl

theorem bind_of_ok {p : T × ℕ} (h : x attempt = .ok p) (f : T → Binding U) :
    (x >>= f) attempt = f p.1 p.2 := by
  change Except.bind (x attempt) _ = _
  rw [h]
  rfl

theorem bind_of_error {e : Error} (h : x attempt = .error e) (f : T → Binding U) :
    (x >>= f) attempt = .error e := by
  change Except.bind (x attempt) _ = _
  rw [h]
  rfl

theorem map_of_ok {p : T × ℕ} (h : x attempt = .ok p) (f : T → U) :
    (f <$> x) attempt = .ok (f p.1,p.2) := by
  change Except.bind (x attempt) _ = _
  rw [h]
  rfl

theorem map_of_error {e : Error} (h : x attempt = .error e) (f : T → U) :
    (f <$> x) attempt = .error e := by
  change Except.bind (x attempt) _ = _
  rw [h]
  rfl

end Monad

section Bind
variable (outcomes : BindOutcomes)

def TcpListener.bind (socketAddr : SocketAddr) : Binding TcpListener := fun attempt =>
  match outcomes attempt socketAddr with
  | some e => .error e
  | none => .ok (⟨socketAddr⟩,attempt + 1)

def AllBind : ℕ → List SocketAddr → Prop
  | _,[] => True
  | attempt,socketAddr :: rest => outcomes attempt socketAddr = none ∧ AllBind (attempt + 1) rest

theorem allBind_append (attempt : ℕ) (a b : List SocketAddr) :
    AllBind outcomes attempt (a ++ b) ↔
      AllBind outcomes attempt a ∧ AllBind outcomes (attempt + a.length) b := by
  induction a generalizing attempt with
  | nil => simp [AllBind]
  | cons x a ih =>
    simp only [List.cons_append,AllBind,ih,List.length_cons,and_assoc]
    rw [Nat.add_right_comm,Nat.add_assoc]

theorem allBind_of_none (h : ∀ attempt socketAddr, outcomes attempt socketAddr = none)
    (attempt : ℕ) (addrs : List SocketAddr) : AllBind outcomes attempt addrs := by
  induction addrs generalizing attempt with
  | nil => trivial
  | cons x addrs ih => exact ⟨h attempt x,ih (attempt + 1)⟩

variable {T : Type} (socketAddr : T → SocketAddr)

def bindEach : List T → Binding (List (TcpListener × T))
  | [] => pure []
  | t :: rest => do
    let listener ← TcpListener.bind outcomes (socketAddr t)
    let listeners ← bindEach rest
    pure ((listener,t) :: listeners)

def boundTo (t : T) : TcpListener × T := (⟨socketAddr t⟩,t)

theorem bind_free {attempt : ℕ} {addr : SocketAddr} (h : outcomes attempt addr = none) :
    TcpListener.bind outcomes addr attempt = .ok (⟨addr⟩,attempt + 1) := by
  simp only [TcpListener.bind,h]

theorem bind_refused {attempt : ℕ} {addr : SocketAddr} {e : Error}
    (h : outcomes attempt addr = some e) : TcpListener.bind outcomes addr attempt = .error e := by
  simp only [TcpListener.bind,h]

theorem bindEach_of_allBind {attempt : ℕ} {ts : List T}
    (h : AllBind outcomes attempt (ts.map socketAddr)) :
    bindEach outcomes socketAddr ts attempt =
      .ok (ts.map (boundTo socketAddr),attempt + ts.length) := by
  induction ts generalizing attempt with
  | nil => rfl
  | cons t ts ih =>
    rw [bindEach,bind_of_ok (bind_free outcomes h.1),bind_of_ok (ih h.2),pure_run,List.map_cons,
      List.length_cons,Nat.add_assoc,Nat.add_comm 1]
    rfl

theorem bindEach_of_not_allBind {attempt : ℕ} {ts : List T}
    (h : ¬ AllBind outcomes attempt (ts.map socketAddr)) :
    ∃ e, bindEach outcomes socketAddr ts attempt = .error e := by
  induction ts generalizing attempt with
  | nil => exact absurd trivial h
  | cons t ts ih =>
    rw [bindEach]
    cases hx : outcomes attempt (socketAddr t) with
    | some e => exact ⟨e,bind_of_error (bind_refused outcomes hx) _⟩
    | none =>
      obtain ⟨e,he⟩ := ih (fun hr => h ⟨hx,hr⟩)
      exact ⟨e,by rw [bind_of_ok (bind_free outcomes hx),bind_of_error he]⟩

end Bind

-- What a peek finds: the bytes that have arrived by then, an error of the socket, or no byte in time.
inductive Peek where
  | arrived (available : List UInt8)
  | failed
  | timedOut
deriving DecidableEq, Repr

def peekBuffer (size : ℕ) (available : List UInt8) : List UInt8 :=
  available.take size ++ List.replicate (size - available.length) 0

def peekTimeout (size : ℕ) : Peek → Option (List UInt8)
  | .arrived available => some (peekBuffer size available)
  | .failed => none
  | .timedOut => none

theorem peekBuffer_length (size : ℕ) (available : List UInt8) :
    (peekBuffer size available).length = size := by
  simp [peekBuffer]
  omega

theorem peekBuffer_of_le {size : ℕ} {available : List UInt8} (h : size ≤ available.length) :
    peekBuffer size available = available.take size := by
  simp [peekBuffer,Nat.sub_eq_zero_of_le h]

theorem peekBuffer_of_ge {size : ℕ} {available : List UInt8} (h : available.length ≤ size) :
    peekBuffer size available = available ++ List.replicate (size - available.length) 0 := by
  rw [peekBuffer,List.take_of_length_le h]

theorem peekBuffer_prefix {size : ℕ} {a : List UInt8} (h : a.length ≤ size) (bs : List UInt8) :
    ∃ tail, peekBuffer size (a ++ bs) = a ++ tail := by
  rw [peekBuffer,List.take_append,List.take_of_length_le h,List.append_assoc]
  exact ⟨_,rfl⟩

end RustyValve
