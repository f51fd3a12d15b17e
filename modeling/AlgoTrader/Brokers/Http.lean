/-
# Brokers.Http -- what a failed call carries

The exceptions a component can meet, with the attributes the code reads off one:
its class as far as an `except` clause tells it apart, its name, the HTTP
details, and the order some provider errors carry.
-/
import AlgoTrader.Core.Models

namespace AlgoTrader.Brokers

open AlgoTrader.Core

set_option autoImplicit false

/-- The exception classes the code tells apart; `provider` is any other one. -/
inductive ExcClass where
  | persistenceUnavailable
  | transitionNotRecorded
  | permissionError
  | valueError
  | osError
  | reconciliationUnavailable
  | providerTimeout
  | providerHttp
  | provider
  deriving DecidableEq, Repr

/-- An exception. -/
structure Exc where
  kind : ExcClass
  /-- `type(exc).__name__`. -/
  typeName : String
  message : String
  /-- The details of an HTTP failure; only a `ProviderHTTPError` has them. -/
  statusCode : Option Int := none
  path : Option String := none
  reason : Option String := none
  /-- `getattr(exc, "order", None)`, where that is an `Order`. -/
  order : Option Order := none
  deriving DecidableEq

namespace Exc

def persistenceUnavailable (message : String) : Exc :=
  { kind := .persistenceUnavailable, typeName := "PersistenceUnavailable", message }

def transitionNotRecorded (message : String) : Exc :=
  { kind := .transitionNotRecorded, typeName := "TransitionNotRecorded", message }

def permissionError (message : String) : Exc :=
  { kind := .permissionError, typeName := "PermissionError", message }

def valueError (message : String) : Exc :=
  { kind := .valueError, typeName := "ValueError", message }

def reconciliationUnavailable (message : String) : Exc :=
  { kind := .reconciliationUnavailable, typeName := "ReconciliationUnavailable", message }

end Exc

/-- The parts of `provider_failure_fields` after the name, written out. -/
def providerFailureFields (exc : Exc) : List String :=
  match exc.statusCode with
  | none => []
  | some code =>
      [s!"HTTP {code}"] ++ (exc.path.map fun path => s!"path={path}").toList ++
        (exc.reason.map fun reason => s!"reason={reason}").toList

/-- One readable phrase: `ProviderHTTPError HTTP 500 ...`. -/
def describeProviderFailure (exc : Exc) : String :=
  " ".intercalate (exc.typeName :: providerFailureFields exc)

end AlgoTrader.Brokers
