import NetworkEnforcer.Api.Objects

/-!
# Errors

The errors of the client and of the reconciler.  `wrap` is `fmt.Errorf("…: %w", err)`, `join` is
`errors.Join` of two errors; the tests look through both, as `errors.As` does.
-/

namespace NetworkEnforcer.Api

inductive Err where
  /-- An API error of reason `NotFound`. -/
  | notFound (message : String)
  /-- Any other error of a library. -/
  | other (message : String)
  /-- `policyOwnershipConflictError`. -/
  | policyOwnershipConflict (kind : String) (key : NamespacedName)
  | wrap (context : String) (cause : Err)
  | join (first second : Err)
  deriving DecidableEq, Repr

namespace Err

/-- `Error()`. -/
def text : Err → String
  | notFound message => message
  | other message => message
  | policyOwnershipConflict kind key =>
    kind ++ " " ++ key.text ++ " is not controlled by this WorkloadNetworkPolicy"
  | wrap context cause => context ++ ": " ++ cause.text
  | join first second => first.text ++ "\n" ++ second.text

/-- `apierrors.IsNotFound`. -/
def isNotFound : Err → Bool
  | notFound _ => true
  | other _ => false
  | policyOwnershipConflict .. => false
  | wrap _ cause => cause.isNotFound
  | join first second => first.isNotFound || second.isNotFound

/-- `errors.AsType[*policyOwnershipConflictError]`. -/
def isPolicyOwnershipConflict : Err → Bool
  | notFound _ => false
  | other _ => false
  | policyOwnershipConflict .. => true
  | wrap _ cause => cause.isPolicyOwnershipConflict
  | join first second => first.isPolicyOwnershipConflict || second.isPolicyOwnershipConflict

end Err

/-- `client.IgnoreNotFound`. -/
def ignoreNotFound (err : Err) : Option Err := if err.isNotFound then none else some err

/-- `errors.Join` of two errors that may be nil. -/
def joinErrors : Option Err → Option Err → Option Err
  | none, e => e
  | some e, none => some e
  | some e, some e' => some (.join e e')

@[simp] lemma joinErrors_eq_none {e e' : Option Err} : joinErrors e e' = none ↔ e = none ∧ e' = none := by
  cases e <;> cases e' <;> simp [joinErrors]

end NetworkEnforcer.Api
