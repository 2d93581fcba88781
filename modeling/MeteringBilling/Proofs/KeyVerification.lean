import MeteringBilling.AuthService
import MeteringBilling.Library.History

/-! The cache of the verification of API keys agrees with bcrypt, which it asks again only for pairs that a
thousand others have come behind. -/

namespace MeteringBilling.KeyVerification

open AuthService RecentMemo

variable {checkpw : String → String → Option Bool} {actions : List Verification} {verifier : Verifier checkpw}

def asked : List Verification → List (String × String) :=
  List.foldl (fun pairs action =>
    match action with
    | .verifyApiKey plainKey hash => pairs ++ [(plainKey, hash)]
    | .clearCache => []) []

/-- The thousand different pairs that were asked last. -/
def remembered (actions : List Verification) : List (String × String) := (recency (asked actions)).take maxsize

def Remembers (actions : List Verification) (verifier : Verifier checkpw) : Prop := Recalls (asked actions) verifier.cache

theorem remembers_run (ran : (verifying checkpw).run actions (.initial checkpw) = some verifier) :
    Remembers actions verifier := by
  have kept (past : List Verification) (action : Verification) (verifier next : Verifier checkpw) (_ : True)
      (remembers : Remembers past verifier) (taken : (verifying checkpw).step action verifier = some next) :
      Remembers (past ++ [action]) next := by
    rw [Remembers, asked, List.foldl_append]
    cases action with
    | verifyApiKey plainKey hash =>
      obtain rfl := Option.some.inj taken
      exact remembers.ask (plainKey, hash)
    | clearCache =>
      obtain rfl := Option.some.inj taken
      exact recalls_empty
  have start : Remembers [] (.initial checkpw) := recalls_empty
  exact Machine.run_history kept (fun _ _ => trivial) start ran

/-- Whatever has been verified before, the answer is that of bcrypt, and bcrypt is asked exactly for the pairs that
are not remembered. -/
theorem verification_remembered (ran : (verifying checkpw).run actions (.initial checkpw) = some verifier)
    (plainKey hash : String) :
    (verifier.verifyApiKey plainKey hash).1 = (checkpw plainKey hash).getD false ∧
    (verifier.verifyApiKey plainKey hash).2.checked =
      if (plainKey, hash) ∈ remembered actions then verifier.checked else verifier.checked ++ [(plainKey, hash)] := by
  have remembers : verifier.cache.keys = remembered actions := remembers_run ran
  refine ⟨verifier.cache.value_eq (plainKey, hash), ?_⟩
  rw [← remembers]
  rfl

def logins : List Verification := [.verifyApiKey "key" "hash", .verifyApiKey "key" "hash", .clearCache]

theorem logins_remembered : ∃ verifier, (verifying fun _ _ => some true).run logins (.initial _) = some verifier ∧
    (verifier.verifyApiKey "key" "hash").1 = true ∧
    (verifier.verifyApiKey "key" "hash").2.checked =
      if ("key", "hash") ∈ remembered logins then verifier.checked else verifier.checked ++ [("key", "hash")] :=
  ⟨_, rfl, verification_remembered rfl "key" "hash"⟩

end MeteringBilling.KeyVerification
