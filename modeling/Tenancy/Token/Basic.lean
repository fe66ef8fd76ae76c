import Tenancy.Digest.Hmac
import Tenancy.Json.Octets
import Tenancy.Json.Writer
import Tenancy.Number.Binary64
import Tenancy.Settings
import Tenancy.Text.Base64Url
import Tenancy.Text.Integer
import Tenancy.Text.Numeral

/-!
# Access tokens

A token holds claims, signed with a secret: `header.payload.signature`, each of the three in
base64. The header names the algorithm, the payload is an object of claims, and the signature is
the keyed digest of what stands before it.

* `Token.sign` writes a token;
* `Token.verify` checks its form, then the rest of its header, then its signature, then its claims,
  and answers the claims.

A header may say with `b64` that the payload is kept apart from the token. Such a payload is never
at hand here, so a token of this kind is refused in any case, though not always for that reason.
-/

namespace Tenancy

/-- What a token says of its bearer. -/
abbrev Claims := Json.Members

/-- Why a token is refused. -/
inductive TokenFault where
  | fewSegments
  | headerPadding
  | headerText (reason : String)
  | headerShape
  | payloadPadding
  | payloadPresent
  | signaturePadding
  | keyIdNotText
  | criticalShape
  | criticalNotText
  | criticalUnknown (name : Json.Str)
  | criticalAbsent (name : Json.Str)
  | detachmentNotCritical
  | detachedPayload
  | algorithmMissing
  | algorithmRefused
  | signatureMismatch
  | payloadText (reason : String)
  | payloadShape
  | issuedAtNotInteger
  | issuedInFuture
  | notBeforeNotInteger
  | notYetValid
  | expiryNotInteger
  | expired
  | audience
  | subjectNotText
  | idNotText

namespace Token

/-- The name of the algorithm of signatures. -/
def algorithm : String := "HS256"

/-- The header of a token that is written. -/
def header : Json :=
  .obj [("alg", .str algorithm), ("typ", .str "JWT")]

/-- The octet between segments. -/
def dot : UInt8 := 46

/-- A value as a segment. -/
def segment (value : Json) : List UInt8 :=
  Text.Base64Url.encode (Text.Utf8.encode value.write)

/-- The octets of the secret. -/
def key (settings : Settings) : List UInt8 :=
  Text.Utf8.encode settings.secret.toList

/-- The signed form of claims. -/
def sign (settings : Settings) (claims : Claims) : List UInt8 :=
  let body := segment header ++ dot :: segment (.obj claims)
  body ++ dot :: Text.Base64Url.encode (Hmac.digest (key settings) body)

/-- The octets before and behind the first dot. -/
def cutFirst? (octets : List UInt8) : Option (List UInt8 × List UInt8) :=
  match octets.dropWhile (· ≠ dot) with
  | [] => none
  | _ :: rest => some (octets.takeWhile (· ≠ dot), rest)

/-- The octets before and behind the last dot. -/
def cutLast? (octets : List UInt8) : Option (List UInt8 × List UInt8) :=
  (cutFirst? octets.reverse).map fun (behind, before) => (before.reverse, behind.reverse)

/-- The segments of a token as they stand. -/
structure Segments where
  signed : List UInt8
  header : List UInt8
  payload : List UInt8
  signature : List UInt8

/-- Cuts a token at its last dot, and what stands before it at its first. -/
def segments (token : List UInt8) : Except TokenFault Segments :=
  match cutLast? token with
  | none => .error .fewSegments
  | some (signed, signature) =>
    match cutFirst? signed with
    | none => .error .fewSegments
    | some (header, payload) => .ok { signed, header, payload, signature }

/-- The octets of a segment, or the given fault. -/
def unpack (fault : TokenFault) (segment : List UInt8) : Except TokenFault (List UInt8) :=
  match Text.Base64Url.decode segment with
  | some octets => .ok octets
  | none => .error fault

/-- The object that octets hold; `unread` and `shape` are the faults of other octets. -/
def readObject (settings : Settings) (unread : String → TokenFault) (shape : TokenFault)
    (octets : List UInt8) : Except TokenFault Json.Members :=
  match Json.readOctets settings.tokenDepth octets with
  | .error flaw => .error (unread flaw.message)
  | .ok (.obj members) => .ok members
  | .ok _ => .error shape

/-- The name of the header member that tells whether the payload is kept apart. -/
def detachmentName : String := "b64"

/-- Whether a header says that the payload is kept apart. -/
def isDetached (header : Json.Members) : Bool :=
  match header.get? detachmentName with
  | some (.bool b) => !b
  | _ => false

/-- The payload of a token, which has to be empty if it is kept apart. -/
def readPayload (header : Json.Members) (segment : List UInt8) :
    Except TokenFault (List UInt8) :=
  if isDetached header then
    if segment.isEmpty then .ok [] else .error .payloadPresent
  else unpack .payloadPadding segment

/-- Requires that the id of a key is a text, if there is one. -/
def checkKeyId (header : Json.Members) : Except TokenFault Unit :=
  match header.get? "kid" with
  | none | some (.string _) => .ok ()
  | some _ => .error .keyIdNotText

/-- Requires that a critical member is understood and present; only one is understood. -/
def checkCritical (header : Json.Members) : Json → Except TokenFault Unit
  | .string name =>
    if name ≠ .sound detachmentName then .error (.criticalUnknown name)
    else if (header.get? detachmentName).isNone then .error (.criticalAbsent name)
    else .ok ()
  | _ => .error .criticalNotText

/-- Checks the list of critical members, if there is one. A payload that is kept apart has to be
listed. -/
def checkCriticals (header : Json.Members) : Except TokenFault Unit :=
  match header.get? "crit" with
  | none => if isDetached header then .error .detachmentNotCritical else .ok ()
  | some (.arr (name :: names)) => (name :: names).forM (checkCritical header)
  | some _ => .error .criticalShape

/-- Requires the algorithm of signatures. -/
def checkAlgorithm (header : Json.Members) : Except TokenFault Unit :=
  match header.get? "alg" with
  | none => .error .algorithmMissing
  | some (.str name) => if name = algorithm then .ok () else .error .algorithmRefused
  | some _ => .error .algorithmRefused

/-- Checks what a header says beyond its form. -/
def checkHeader (header : Json.Members) : Except TokenFault Unit := do
  checkKeyId header
  checkCriticals header
  if isDetached header then .error .detachedPayload
  checkAlgorithm header

/-- The point in time, in seconds, that a claim gives: an integer, a text that holds one, or a
number that is cut off at its point. -/
def timeOf? : Json → Option Int
  | .int n => some n
  | .bool b => some (if b then 1 else 0)
  | .str s => Text.integer? s.toList
  | .real d => (Binary64.ofDecimal d).truncate?
  | _ => none

/-- Checks a claim that gives a time, if there is one. -/
def checkTime (claims : Claims) (name : String) (notInteger refused : TokenFault)
    (accepts : Int → Bool) : Except TokenFault Unit :=
  match claims.get? name with
  | none => .ok ()
  | some value =>
    match timeOf? value with
    | none => .error notInteger
    | some time => if accepts time then .ok () else .error refused

/-- Requires that a claim is a text, if there is one. -/
def checkText (claims : Claims) (name : String) (fault : TokenFault) : Except TokenFault Unit :=
  match claims.get? name with
  | none | some (.string _) => .ok ()
  | some _ => .error fault

/-- Checks claims at a point in time: issued and valid since then, not expired, for no particular
audience, with texts for subject and id. -/
def checkClaims (now : Int) (claims : Claims) : Except TokenFault Unit := do
  checkTime claims "iat" .issuedAtNotInteger .issuedInFuture (· ≤ now)
  checkTime claims "nbf" .notBeforeNotInteger .notYetValid (· ≤ now)
  checkTime claims "exp" .expiryNotInteger .expired (now < ·)
  if (claims.get? "aud").any Json.truthy then .error .audience
  checkText claims "sub" .subjectNotText
  checkText claims "jti" .idNotText

/-- The claims of a token that is in order at a point in time. -/
def verify (settings : Settings) (now : Int) (token : List UInt8) : Except TokenFault Claims := do
  let parts ← segments token
  let headerOctets ← unpack .headerPadding parts.header
  let header ← readObject settings .headerText .headerShape headerOctets
  let payload ← readPayload header parts.payload
  let signature ← unpack .signaturePadding parts.signature
  checkHeader header
  if signature ≠ Hmac.digest (key settings) parts.signed then .error .signatureMismatch
  let claims ← readObject settings .payloadText .payloadShape payload
  checkClaims now claims
  return claims

/-- The claims of a token for an account, issued at a point in time for a number of seconds. -/
def claimsFor (now : Int) (account : Int) (name : String) (lifetime : Int) : Claims :=
  [("sub", .str (Text.decimal account)), ("name", .str name), ("iat", .int now),
    ("exp", .int (now + lifetime))]

end Token

/-- Wording of a fault of a token. -/
def TokenFault.message : TokenFault → String
  | fewSegments => "Not enough segments"
  | headerPadding => "Invalid header padding"
  | headerText reason => "Invalid header string: " ++ reason
  | headerShape => "Invalid header string: must be a json object"
  | payloadPadding => "Invalid payload padding"
  | payloadPresent => "Payload segment must be empty when 'b64' is false."
  | signaturePadding => "Invalid crypto padding"
  | keyIdNotText => "Key ID header parameter must be a string"
  | criticalShape => "Invalid 'crit' header: must be a non-empty list"
  | criticalNotText => "Invalid 'crit' header: values must be strings"
  | criticalUnknown name => "Unsupported critical extension: " ++ name.masked
  | criticalAbsent name => "Critical extension '" ++ name.masked ++ "' is missing from headers"
  | detachmentNotCritical =>
    "The 'b64' header parameter requires 'b64' to be listed in 'crit'."
  | detachedPayload =>
    "It is required that you pass in a value for the \"detached_payload\" argument to decode a " ++
      "message having the b64 header set to false."
  | algorithmMissing => "Algorithm not specified"
  | algorithmRefused => "The specified alg value is not allowed"
  | signatureMismatch => "Signature verification failed"
  | payloadText reason => "Invalid payload string: " ++ reason
  | payloadShape => "Invalid payload string: must be a json object"
  | issuedAtNotInteger => "Issued At claim (iat) must be an integer."
  | issuedInFuture => "The token is not yet valid (iat)"
  | notBeforeNotInteger => "Not Before claim (nbf) must be an integer."
  | notYetValid => "The token is not yet valid (nbf)"
  | expiryNotInteger => "Expiration Time claim (exp) must be an integer."
  | expired => "Signature has expired"
  | audience => "Invalid audience"
  | subjectNotText => "Subject must be a string"
  | idNotText => "JWT ID must be a string"

end Tenancy
