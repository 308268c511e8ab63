import RustyValve.Connection

namespace RustyValve

namespace InternalService

def rank : InternalService → ℕ
  | sshTarpit => 0
  | loadBalancer => 1
  | gatekeeperAuth => 2

theorem rank_injective {a b : InternalService} (h : a.rank = b.rank) : a = b := by
  revert h
  cases a <;> cases b <;> decide

instance : Ord InternalService := ⟨compareOn rank⟩

instance : Std.TransOrd InternalService := inferInstanceAs (Std.TransCmp (compareOn rank))

instance : Std.LawfulEqOrd InternalService where
  eq_of_compare h := rank_injective (Std.LawfulEqOrd.eq_of_compare h)

end InternalService

-- The sending half of a bounded channel.
structure Sender where
  capacity : ℕ
deriving DecidableEq, Repr

structure ServiceForwardTable where
  inner : Std.ExtTreeMap InternalService Sender

namespace ServiceForwardTable

def hasService (self : ServiceForwardTable) (serviceType : InternalService) : Bool :=
  self.inner.contains serviceType

-- The channel that the connection is then sent into.
def forwarder (self : ServiceForwardTable) (serviceType : InternalService) : Except Error Sender :=
  match self.inner[serviceType]? with
  | none => .error (.anyhow ("forwarder for ".toList ++ serviceType.slugName ++
      " does not exist".toList))
  | some sender => .ok sender

end ServiceForwardTable

structure ServiceForwardTableBuilder where
  forwarders : Std.ExtTreeMap InternalService Sender

namespace ServiceForwardTableBuilder

def new : ServiceForwardTableBuilder := ⟨∅⟩

def add (self : ServiceForwardTableBuilder) (serviceType : InternalService) (sender : Sender) :
    Except Error ServiceForwardTableBuilder :=
  if self.forwarders.contains serviceType then .error (.anyhow "service already entered".toList)
  else .ok ⟨self.forwarders.insert serviceType sender⟩

def build (self : ServiceForwardTableBuilder) : ServiceForwardTable := ⟨self.forwarders⟩

end ServiceForwardTableBuilder

end RustyValve
