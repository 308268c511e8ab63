import RustyValve.Errors

namespace RustyValve

inductive InternalService where
  | sshTarpit
  | loadBalancer
  | gatekeeperAuth
deriving DecidableEq, Repr

namespace InternalService

def slugName : InternalService → Str
  | sshTarpit => "ssh-tarpit".toList
  | loadBalancer => "load-balancer".toList
  | gatekeeperAuth => "gatekeeper-auth".toList

def fromStr (s : Str) : Except Error InternalService :=
  if s = sshTarpit.slugName then .ok sshTarpit
  else if s = loadBalancer.slugName then .ok loadBalancer
  else if s = gatekeeperAuth.slugName then .ok gatekeeperAuth
  else .error (.anyhow (s ++ " does not match any existing services".toList))

theorem fromStr_eq_ok {s : Str} {service : InternalService} :
    fromStr s = .ok service ↔ s = service.slugName := by
  constructor
  · intro h
    unfold fromStr at h
    split_ifs at h <;> simp_all
  · rintro rfl
    cases service <;> decide

theorem slugName_no_separator (service : InternalService) :
    ∀ c ∈ service.slugName, ¬ Separator c := by
  apply forall_char
  cases service <;> decide

theorem slugName_no_colon (service : InternalService) : ':' ∉ service.slugName := by
  cases service <;> decide

end InternalService

end RustyValve
