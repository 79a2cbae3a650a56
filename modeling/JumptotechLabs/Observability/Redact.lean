/-
Module: JumptotechLabs.Observability.Redact
Layer: Observability (the log)
Purpose: The redactor of log values: the patterns a secret may have, the values this process was
  configured with, and the walk over a log field of any shape. No registered value is left in a text the
  redactor returns.
Main exports: SecretKind, patterns, registerSecretValues, withoutCutToken, redactString, LogValue,
  redactValue, Registrable, Registrable.not_infix_redactString, mem_registered
-/
import JumptotechLabs.Core.Regex
import JumptotechLabs.Core.JsonText
import Mathlib.Data.List.Sort

namespace JumptotechLabs.Observability

open JumptotechLabs.Core JumptotechLabs.Core.Regex

/-! ### The patterns -/

/-- What was found. -/
inductive SecretKind where
  | jwt
  | authorization
  | pem
  | dsn
  | cookie
  | hexSecret
  | base64Secret
  | awsKey
  | oauth
  | email
  | kubeconfig
  | credential
  | field
  | configuredSecret
deriving DecidableEq

def SecretKind.text : SecretKind → String
  | .jwt => "jwt"
  | .authorization => "authorization"
  | .pem => "pem"
  | .dsn => "dsn"
  | .cookie => "cookie"
  | .hexSecret => "hex-secret"
  | .base64Secret => "base64-secret"
  | .awsKey => "aws-key"
  | .oauth => "oauth"
  | .email => "email"
  | .kubeconfig => "kubeconfig"
  | .credential => "credential"
  | .field => "field"
  | .configuredSecret => "configured-secret"

/-- `[REDACTED:<kind>]`. -/
def redacted (kind : String) : Utf16 := units ("[REDACTED:" ++ kind ++ "]")

def SecretKind.mark (kind : SecretKind) : Utf16 := redacted kind.text

/-- `[REDACTED:depth]`. -/
def depthMark : Utf16 := redacted "depth"

/-- `[REDACTED:unsupported]`. -/
def unsupportedMark : Utf16 := redacted "unsupported"

def isLower (unit : UInt16) : Bool := 97 ≤ unit && unit ≤ 122

def isUpper (unit : UInt16) : Bool := 65 ≤ unit && unit ≤ 90

def isAlphanumeric (unit : UInt16) : Bool := isLower unit || isUpper unit || Utf16.isDigit unit

/-- `\w`. -/
def isWord (unit : UInt16) : Bool := isAlphanumeric unit || unit == unitOf '_'

/-- Is the unit one of the text's? -/
def among (text : String) (unit : UInt16) : Bool := (units text).contains unit

/-- The text, unit by unit. -/
def literal (text : String) : Regex UInt16 := chain ((units text).map fun unit => .one (· == unit))

/-- The text in any case. -/
def anyCase (text : String) : Regex UInt16 :=
  chain ((units text).map fun unit => .one fun other => Utf16.lowerAscii other == Utf16.lowerAscii unit)

/-- `\b`. -/
def wordEdge : Regex UInt16 := .boundary isWord

/-- `\s*`. -/
def spaces : Regex UInt16 := atLeast 0 (.one Utf16.isSpace)

/-- `[A-Za-z0-9_-]`. -/
def isBase64Url (unit : UInt16) : Bool := isAlphanumeric unit || among "_-" unit

/-- `[A-Za-z0-9._~+/=-]`. -/
def isCredentialUnit (unit : UInt16) : Bool := isAlphanumeric unit || among "._~+/=-" unit

/-- `[A-Z0-9 ]{0,40}(?:KEY|CERTIFICATE)-----`. -/
def pemLabel : Regex UInt16 :=
  chain [between 0 40 (.one fun unit => isUpper unit || Utf16.isDigit unit || unit == 32),
    oneOf [literal "KEY", literal "CERTIFICATE"], literal "-----"]

/-- `PATTERNS`, in the order they are tried. -/
def patterns : List (SecretKind × Regex UInt16) :=
  [(.jwt, chain [literal "eyJ", atLeast 8 (.one isBase64Url), literal ".",
      atLeast 8 (.one isBase64Url), optional (.seq (literal ".") (atLeast 0 (.one isBase64Url)))]),
    (.pem, chain [literal "-----BEGIN ", pemLabel,
      .repeated 0 (some 4096) false (.one fun _ => true), literal "-----END ", pemLabel]),
    (.kubeconfig, chain [wordEdge,
      oneOf [anyCase "client-key-data", anyCase "client-certificate-data",
        anyCase "certificate-authority-data", anyCase "token"],
      spaces, literal ":", spaces, atLeast 1 (.one fun unit => !Utf16.isSpace unit)]),
    (.authorization, chain [wordEdge,
      oneOf [literal "Bearer", literal "Basic", literal "Negotiate", literal "Digest"],
      atLeast 1 (.one Utf16.isSpace), atLeast 4 (.one isCredentialUnit)]),
    (.authorization, chain [wordEdge, anyCase "authorization", spaces, .one (among ":="), spaces,
      between 1 16 (.one fun unit => isLower unit || isUpper unit), atLeast 1 (.one Utf16.isSpace),
      atLeast 4 (.one isCredentialUnit)]),
    (.authorization, chain [wordEdge, anyCase "bearer", atLeast 1 (.one Utf16.isSpace),
      atLeast 12 (.one isCredentialUnit)]),
    (.dsn, chain [wordEdge,
      oneOf [anyCase "postgres", anyCase "postgresql", anyCase "mysql", anyCase "mongodb",
        anyCase "redis", anyCase "amqp"],
      optional (.seq (literal "+") (atLeast 1 (.one isWord))), literal "://",
      between 1 128 (.one fun unit => !(Utf16.isSpace unit || among ":/@" unit)), literal ":",
      between 1 256 (.one fun unit => !(Utf16.isSpace unit || among "@" unit)), literal "@"]),
    (.cookie, chain [wordEdge,
      oneOf [literal "jtt_session", literal "connect.sid", literal "JSESSIONID"], literal "=",
      between 1 512 (.one fun unit => !(Utf16.isSpace unit || among ";\"'" unit))]),
    (.oauth, chain [wordEdge,
      oneOf [anyCase "client_secret", anyCase "refresh_token", anyCase "id_token",
        anyCase "access_token", anyCase "code_verifier", anyCase "code"],
      literal "=", atLeast 4 (.one fun unit => !(Utf16.isSpace unit || among "&\"'" unit))]),
    (.credential, chain [
      oneOf [anyCase "secret", anyCase "password", anyCase "passwd", anyCase "token",
        chain [anyCase "api", optional (.one (among "_-")), anyCase "key"],
        chain [anyCase "private", optional (.one (among "_-")), anyCase "key"]],
      between 0 32 (.one isBase64Url), optional (.one (among "\"'")),
      between 0 4 (.one Utf16.isSpace), .one (among ":="), between 0 4 (.one Utf16.isSpace),
      optional (.one (among "\"'")),
      between 4 512 (.one fun unit => !(Utf16.isSpace unit || among "\"',;&[]\x7b\x7d" unit))]),
    (.awsKey, chain [wordEdge,
      oneOf [literal "AKIA", literal "ASIA", literal "AGPA", literal "AIDA", literal "AROA",
        literal "ANPA"],
      between 16 16 (.one fun unit => Utf16.isDigit unit || isUpper unit), wordEdge]),
    (.hexSecret, chain [wordEdge,
      atLeast 32 (.one fun unit => Utf16.isDigit unit || among "abcdefABCDEF" unit), wordEdge]),
    (.base64Secret, chain [wordEdge,
      atLeast 40 (.one fun unit => isAlphanumeric unit || among "+/" unit),
      between 0 2 (literal "="),
      .notAhead (.one fun unit => isAlphanumeric unit || among "+/=" unit)]),
    (.email, chain [wordEdge,
      between 1 64 (.one fun unit => isAlphanumeric unit || among "._%+-" unit), literal "@",
      between 1 63 (.one fun unit => isAlphanumeric unit || among "-" unit),
      between 1 4 (.seq (literal ".")
        (between 1 63 (.one fun unit => isAlphanumeric unit || among "-" unit))),
      wordEdge])]

/-! ### The configured secrets -/

/-- `MIN_LITERAL_SECRET_LENGTH`. -/
def minLiteralSecretLength : Nat := 8

/-- `Set.add`: a value that is there keeps its place. -/
def addValue (values : List Utf16) (value : Utf16) : List Utf16 :=
  if value ∈ values then values else values ++ [value]

/-- `registerSecretValues`: the values kept so far and those given, longest first. -/
def registerSecretValues (literalSecrets : List Utf16) (values : List (Option Utf16)) : List Utf16 :=
  let next := values.foldl (fun next value =>
    let trimmed := (value.map Utf16.trim).getD []
    if minLiteralSecretLength ≤ trimmed.length then addValue next trimmed else next) literalSecrets
  next.insertionSort fun first second => second.length ≤ first.length

/-- What is registered after a sequence of calls, from the start of the process. -/
def registered (calls : List (List (Option Utf16))) : List Utf16 :=
  calls.foldl registerSecretValues []

/-! ### Texts -/

/-- `MAX_SCANNED_CHARS`. -/
def maxScannedChars : Nat := 8192

/-- Drop the token the length bound cut through. -/
def withoutCutToken (head : Utf16) : Utf16 :=
  head.rdropWhile fun unit => isAlphanumeric unit || among "+/=_.~-" unit

/-- The text that is scanned: a long one is cut, and says so. -/
def scanned (value : Utf16) : Utf16 :=
  if maxScannedChars < value.length then
    withoutCutToken (value.take maxScannedChars) ++
      units ("…[truncated " ++ toString (value.length - maxScannedChars) ++ " chars]")
  else value

/-- The literal values, one after the other. -/
def redactLiterals (literalSecrets : List Utf16) (text : Utf16) : Utf16 :=
  literalSecrets.foldl (fun out secret => replaceLiteral secret SecretKind.configuredSecret.mark out)
    text

/-- The patterns, one after the other. -/
def redactPatterns (text : Utf16) : Utf16 :=
  patterns.foldl (fun out pattern => pattern.2.replaceAll pattern.1.mark out) text

/-- `redactString`. -/
def redactString (literalSecrets : List Utf16) (value : Utf16) : Utf16 :=
  redactPatterns (redactLiterals literalSecrets (scanned value))

/-! ### Values -/

/-- The name of an error. A class may give its errors one that is no text. -/
inductive ErrorName where
  | text (name : Utf16)
  | bigint
deriving DecidableEq

/-- The `code` of an error, where it is a text or a number. -/
inductive ErrorCode where
  | none
  | text (code : Utf16)
  | number (code : Number)
deriving DecidableEq

/-- An instance of `Error`. `coerced` is what `String` makes of it, if that does not throw. -/
structure ErrorValue where
  name : ErrorName
  message : Utf16
  code : ErrorCode
  coerced : Option Utf16
deriving DecidableEq

/-- A value that a caller may log. The entries of an object stand in the order of `Object.entries`, and
    `coerced` is what `String` makes of it, if that does not throw. -/
inductive LogValue where
  | undefined
  | null
  | boolean (value : Bool)
  | number (value : Number)
  | string (text : Utf16)
  | error (value : ErrorValue)
  | array (items : List LogValue)
  | object (coerced : Option Utf16) (entries : List (Utf16 × LogValue))
  | symbol (description : Utf16)
  /-- A function or a bigint, and its text. -/
  | other (text : Utf16)
deriving Inhabited

/-- `value !== undefined && value !== null`. -/
def LogValue.present : LogValue → Bool
  | .undefined => false
  | .null => false
  | _ => true

/-- The names of `CREDENTIAL_FIELD`. -/
def credentialFields : List String :=
  ["password", "passwd", "secret", "token", "apiKey", "api_key", "clientSecret", "client_secret",
    "accessToken", "access_token", "refreshToken", "refresh_token", "idToken", "id_token",
    "privateKey", "private_key", "kubeconfig", "authorization", "cookie", "set-cookie",
    "x-internal-secret"]

/-- `CREDENTIAL_FIELD.test(key)`. -/
def isCredentialField (key : Utf16) : Bool :=
  credentialFields.any fun name => (units name).map Utf16.lowerAscii == key.map Utf16.lowerAscii

/-- `error.name`. -/
def ErrorName.document : ErrorName → Document
  | .text name => .string name
  | .bigint => .bigint

/-- An object with a name, a message and, where there is one, a code. -/
def errorObject (name : Document) (message : Utf16) (code : Option Utf16) : Document :=
  .object ([(units "name", name), (units "message", .string message)] ++
    code.toList.map fun code => (units "code", .string code))

/-- How an error is logged inside a value. -/
def redactError (literalSecrets : List Utf16) (value : ErrorValue) : Document :=
  let code := match value.code with
    | .text code => some (redactString literalSecrets code)
    | _ => none
  errorObject value.name.document (redactString literalSecrets value.message) code

mutual

/-- `redactValue`. -/
def redactValue (literalSecrets : List Utf16) (depth : Nat) (value : LogValue) : Document :=
  if 6 < depth then .string depthMark
  else
    match value with
    | .string text => .string (redactString literalSecrets text)
    | .number value => .number value
    | .boolean value => .boolean value
    | .null => .null
    | .undefined => .undefined
    | .array items => .array (redactItems literalSecrets (depth + 1) 64 items)
    | .error value => redactError literalSecrets value
    | .object _ entries => .assign (redactEntries literalSecrets (depth + 1) 64 entries)
    | .symbol _ => .string unsupportedMark
    | .other _ => .string unsupportedMark

/-- The first items of an array, as many as are left. -/
def redactItems (literalSecrets : List Utf16) (depth : Nat) : Nat → List LogValue → List Document
  | 0, _ => []
  | _, [] => []
  | left + 1, item :: rest =>
      redactValue literalSecrets depth item :: redactItems literalSecrets depth left rest

/-- What the first entries of an object set, as many as are left. -/
def redactEntries (literalSecrets : List Utf16) (depth : Nat) :
    Nat → List (Utf16 × LogValue) → List (Utf16 × Document)
  | 0, _ => []
  | _, [] => []
  | left + 1, (key, entry) :: rest =>
      (redactString literalSecrets key,
        if isCredentialField key && entry.present then .string SecretKind.field.mark
        else redactValue literalSecrets depth entry) ::
        redactEntries literalSecrets depth left rest

end

/-! ### No registered value is left -/

/-- A value that can be told from what the redactor writes: long enough to be registered, without the
    units that structure a JSON text, and no part of a mark. -/
structure Registrable (secret : Utf16) : Prop where
  long : minLiteralSecretLength ≤ secret.length
  plain : ∀ unit ∈ units "[]\x7b\x7d\":,\\", unit ∉ secret
  notKind : ∀ kind : SecretKind, ¬ secret <:+: kind.mark
  notDepth : ¬ secret <:+: depthMark
  notUnsupported : ¬ secret <:+: unsupportedMark

namespace Registrable

variable {secret : Utf16}

theorem structureless (registrable : Registrable secret) : Document.Structureless secret where
  long := lt_of_lt_of_le (by decide) registrable.long
  plain := registrable.plain

theorem apart (registrable : Registrable secret) (kind : SecretKind) : Apart secret kind.mark where
  nonempty := registrable.structureless.nonempty
  enclosed := by
    refine ⟨unitOf '[', units ("REDACTED:" ++ kind.text), unitOf ']', ?_,
      registrable.plain _ (by decide), registrable.plain _ (by decide)⟩
    have opening : units "[REDACTED:" = unitOf '[' :: units "REDACTED:" := by decide
    have closing : units "]" = [unitOf ']'] := by decide
    rw [SecretKind.mark, redacted, units_append, units_append, units_append, opening, closing]
    rfl
  absent := registrable.notKind kind

/-- What the literal values are replaced in holds no value that was not there before. -/
theorem infix_of_redactLiterals (registrable : Registrable secret) (literalSecrets : List Utf16)
    (text : Utf16) (held : secret <:+: redactLiterals literalSecrets text) : secret <:+: text := by
  induction literalSecrets generalizing text with
  | nil => exact held
  | cons literal rest ih =>
      exact (rewritten_replaceLiteral literal _ text).infix_before (registrable.apart _)
        (ih _ held)

theorem infix_of_redactPatterns (registrable : Registrable secret) (text : Utf16)
    (held : secret <:+: redactPatterns text) : secret <:+: text := by
  rw [redactPatterns] at held
  generalize patterns = tried at held
  induction tried generalizing text with
  | nil => exact held
  | cons pattern rest ih =>
      exact (rewritten_replaceAll pattern.2 _ text).infix_before (registrable.apart _)
        (ih _ held)

theorem not_infix_redactLiterals (registrable : Registrable secret) {literalSecrets : List Utf16}
    (isLiteral : secret ∈ literalSecrets) (text : Utf16) :
    ¬ secret <:+: redactLiterals literalSecrets text := by
  obtain ⟨longer, shorter, rfl⟩ := List.append_of_mem isLiteral
  rw [redactLiterals, List.foldl_append, List.foldl_cons]
  intro held
  exact not_infix_replaceLiteral (registrable.apart _) _
    (registrable.infix_of_redactLiterals shorter _ held)

/-- No registered value is left in a text the redactor returns. -/
theorem not_infix_redactString (registrable : Registrable secret) {literalSecrets : List Utf16}
    (isLiteral : secret ∈ literalSecrets) (value : Utf16) :
    ¬ secret <:+: redactString literalSecrets value := by
  intro held
  exact registrable.not_infix_redactLiterals isLiteral _ (registrable.infix_of_redactPatterns _ held)

end Registrable

/-! ### What is registered -/

theorem mem_addValue {values : List Utf16} {value other : Utf16} :
    other ∈ addValue values value ↔ other ∈ values ∨ other = value := by
  rw [addValue]
  split
  · rename_i isThere
    constructor
    · exact .inl
    · rintro (inValues | rfl)
      · exact inValues
      · exact isThere
  · simp

theorem mem_registerSecretValues (literalSecrets : List Utf16) (values : List (Option Utf16))
    (secret : Utf16) :
    secret ∈ registerSecretValues literalSecrets values ↔
      secret ∈ literalSecrets ∨
        ∃ value, some value ∈ values ∧ secret = value.trim ∧ minLiteralSecretLength ≤ secret.length := by
  rw [registerSecretValues, List.mem_insertionSort]
  induction values generalizing literalSecrets with
  | nil => simp
  | cons value rest ih =>
      rw [List.foldl_cons, ih]
      cases value with
      | none => simp [minLiteralSecretLength]
      | some value =>
          simp only [Option.map_some, Option.getD_some, List.mem_cons, Option.some.injEq]
          split
          · rename_i long
            rw [mem_addValue]
            constructor
            · rintro ((kept | rfl) | ⟨other, inRest, isTrimmed⟩)
              · exact .inl kept
              · exact .inr ⟨value, .inl rfl, rfl, long⟩
              · exact .inr ⟨other, .inr inRest, isTrimmed⟩
            · rintro (kept | ⟨other, rfl | inRest, isTrimmed⟩)
              · exact .inl (.inl kept)
              · exact .inl (.inr isTrimmed.1)
              · exact .inr ⟨other, inRest, isTrimmed⟩
          · rename_i short
            constructor
            · rintro (kept | ⟨other, inRest, isTrimmed⟩)
              · exact .inl kept
              · exact .inr ⟨other, .inr inRest, isTrimmed⟩
            · rintro (kept | ⟨other, rfl | inRest, rfl, long⟩)
              · exact .inl kept
              · exact absurd long short
              · exact .inr ⟨other, inRest, rfl, long⟩

/-- What is registered is what the calls were given, trimmed, where it is long enough. -/
theorem mem_registered (calls : List (List (Option Utf16))) (secret : Utf16) :
    secret ∈ registered calls ↔
      ∃ value, some value ∈ calls.flatten ∧ secret = value.trim ∧
        minLiteralSecretLength ≤ secret.length := by
  have run : ∀ literalSecrets, secret ∈ calls.foldl registerSecretValues literalSecrets ↔
      secret ∈ literalSecrets ∨ ∃ value, some value ∈ calls.flatten ∧ secret = value.trim ∧
        minLiteralSecretLength ≤ secret.length := by
    induction calls with
    | nil => simp
    | cons call rest ih =>
        intro literalSecrets
        rw [List.foldl_cons, ih, mem_registerSecretValues, or_assoc]
        simp only [List.flatten_cons, List.mem_append, or_and_right, exists_or]
  rw [registered, run]
  simp

end JumptotechLabs.Observability
