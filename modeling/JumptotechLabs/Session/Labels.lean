/-
Module: JumptotechLabs.Session.Labels
Layer: Session (services/lab-orchestrator/src/k8s/labels.ts, providers/docker-provider.ts)
Purpose: The ownership labels that every object of the platform carries.
Main exports: Labels, managedLabel, sessionLabel, runtimeOwnerLabel, ownershipLabels
-/
import Mathlib.Data.List.Basic

namespace JumptotechLabs.Session

/-- Labels, by key. -/
abbrev Labels := List (String × String)

def managedLabel : String := "jumptotech.io/managed"

def sessionLabel : String := "jumptotech.io/session-id"

def labLabel : String := "jumptotech.io/lab-id"

def expiresAtLabel : String := "jumptotech.io/expires-at"

def componentLabel : String := "jumptotech.io/component"

def providerLabel : String := "jumptotech.io/provider"

def runtimeOwnerLabel : String := "jumptotech.io/runtime-owner"

/-- Label selector matching everything this platform owns. -/
def managedSelector : String := managedLabel ++ "=true"

/-- The component of a sandbox of the Docker track. -/
def sandboxComponent : String := "docker-sandbox"

/-- `OwnershipLabelInput`, with the expiry as its text. -/
structure OwnershipLabelInput where
  sessionId : String
  labId : String
  expiresAtMs : Option String := none
  component : Option String := none
  provider : Option String := none
  runtimeOwner : Option String := none
deriving DecidableEq, Inhabited

/-- A label that is left out when its value is absent or empty. -/
def labelUnlessEmpty (key : String) : Option String → Labels
  | none => []
  | some value => if value.isEmpty then [] else [(key, value)]

/-- The labels of an object that the platform creates. -/
def ownershipLabels (input : OwnershipLabelInput) : Labels :=
  [(managedLabel, "true"), (sessionLabel, input.sessionId), (labLabel, input.labId)] ++
    (match input.expiresAtMs with
      | none => []
      | some text => [(expiresAtLabel, text)]) ++
    labelUnlessEmpty componentLabel input.component ++
    labelUnlessEmpty providerLabel input.provider ++
    labelUnlessEmpty runtimeOwnerLabel input.runtimeOwner

end JumptotechLabs.Session
