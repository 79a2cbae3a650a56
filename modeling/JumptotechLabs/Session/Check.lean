/-
Module: JumptotechLabs.Session.Check
Layer: Session (apps/api/src/routes/sessions.ts)
Purpose: `POST /:sessionId/check` and its `runCheck`, once the caller is authorised. A Check holds no
  claim: it reads the row, lets the verifier read the sandbox, and grades only if the row it reads
  back is the one it started from. Metrics, log lines and the response bodies are left out.
Main exports: requireActive, recordVerdict, runCheck, check
-/
import JumptotechLabs.Session.Reaper

namespace JumptotechLabs.Session

open JumptotechLabs.Core
open JumptotechLabs.Core.Prog (attempt ensure settle)

/-- `requireActive`: the session, if it is ACTIVE and its lab is known. -/
def requireActive (m : Manager) (sessionId : String) : SessionM LabSession := do
  let session ← require sessionId
  if session.status = .active then
    let _ ← settle (m.registry session.labId)
    pure session
  else throw (notActive session.status)

/-- The code a refused Check is reported under. -/
def refusalCode : Failure → CheckCode
  | .session error => .session error.code
  | _ => .internalError

/-- Persist the check. Bookkeeping never fails a Check; an attempt that was never opened is opened
    now, and the check recorded against it. -/
def recordVerdict (sessionId : String) (passed : Bool) : SessionM Unit := do
  match ← attempt (await (.recordCheck sessionId passed)) with
  | .ok false =>
      let _ ← attempt (do
        await (.openAttempt sessionId)
        await (.recordCheck sessionId passed))
      pure ()
  | _ => pure ()

/-- Is the row that was read back the one the Check started from, and ACTIVE? -/
def unchangedSince (session : LabSession) (now : Option LabSession) : Bool :=
  now.any fun row =>
    row.status == .active && row.statusChangedAt == session.statusChangedAt

/-- `runCheck`. -/
def runCheck (m : Manager) (session : LabSession) : SessionM Unit := do
  let lab ← settle (m.registry session.labId)
  let _ ← touch session.sessionId
  let result : VerificationResult ← await (.verifyLab lab session)
  -- Also the read-back of the row as it is now.
  let now ← touch session.sessionId
  if unchangedSince session now then
    match result.error with
    | some code =>
        await (.checkEvent session.sessionId .error (some (.verification code)))
    | none =>
        await (.checkEvent session.sessionId (if result.passed then .pass else .fail) none)
        recordVerdict session.sessionId result.passed
  else
    await (.checkEvent session.sessionId .refused (some .sessionChangedDuringCheck))

/-- The route. One Check of a session runs at a time on one instance. -/
def check (m : Manager) (sessionId : String) : SessionM Unit := do
  match ← attempt (requireActive m sessionId) with
  | .error failure => await (.checkEvent sessionId .refused (some (refusalCode failure)))
  | .ok session =>
      let running : Bool ← await (.beginCheck m.index session.sessionId)
      if running then pure ()
      else
        ensure
          (try runCheck m session
          catch failure => do
            await (.checkEvent session.sessionId .error (some .internalError))
            throw failure)
          (await (.endCheck m.index session.sessionId))

end JumptotechLabs.Session
