import NineGateway.Observation.Worker
import NineGateway.Trace.State

set_option autoImplicit false

namespace NineGateway.Proxy

open Trace (Text ResponseMode RequestMode RouteClass)
open Observation (ContentCoding)

-- What the proxy uses of the standard library: mime.ParseMediaType with its
-- result lowered by strings.ToLower, none where it returns an error, and
-- strings.TrimSpace.
structure Strings where
  mediaType : Text → Option Text
  trimSpace : Text → Text

def methodGet : Text := "GET".toUTF8
def methodPost : Text := "POST".toUTF8
def chatCompletionsPath : Text := "/v1/chat/completions".toUTF8
def responsesPath : Text := "/v1/responses".toUTF8
def modelsPath : Text := "/v1/models".toUTF8
def healthPath : Text := "/health".toUTF8
def adminPath : Text := "/admin".toUTF8
def eventStreamType : Text := "text/event-stream".toUTF8
def jsonType : Text := "application/json".toUTF8
def jsonEnding : Text := "+json".toUTF8

def hasPrefix (value start : Text) : Bool := start.data.toList.isPrefixOf value.data.toList
def hasSuffix (value ending : Text) : Bool := ending.data.toList.isSuffixOf value.data.toList

def classifyRoute (method path : Text) : RouteClass :=
  if method = methodGet ∧ path = healthPath then .health
  else if method = methodGet ∧ path = modelsPath then .models
  else if method = methodPost ∧ path = chatCompletionsPath then .chatCompletions
  else if method = methodPost ∧ path = responsesPath then .responses
  else if hasPrefix path "/v1/".toUTF8 then .generic
  else if path = adminPath ∨ hasPrefix path "/admin/".toUTF8 = true then .admin
  else .unknown

structure UpstreamResponse where
  status : Int
  contentTypes : List Text
  contentEncodings : List Text
deriving DecidableEq

structure RequestMetadata where
  model : Text
  stream : Option Bool
deriving DecidableEq

structure Request where
  method : Text
  path : Text
  escapedPath : Text
  principal : Option (Text × Text)
deriving DecidableEq

def Request.inspectable (request : Request) : Bool :=
  request.method = methodPost && (request.path = chatCompletionsPath || request.path = responsesPath)

def boundedEscapedPath (request : Request) : Text := if Trace.validBoundedText request.escapedPath 2048 then request.escapedPath else .empty

section Classifiers

variable (strings : Strings)

def classifyResponse (contentType : Text) : ResponseMode :=
  match strings.mediaType contentType with
  | none => .opaque_
  | some mediaType =>
    if mediaType = eventStreamType then .sse
    else if mediaType = jsonType ∨ hasSuffix mediaType jsonEnding = true then .json
    else .opaque_

def classifyResponseHeader : List Text → ResponseMode
  | [contentType] => classifyResponse strings contentType
  | _ => .opaque_

def classifyActualResponseHeader : List Text → ResponseMode
  | [contentType] =>
    match strings.mediaType contentType with
    | none => .unknown
    | some _ => classifyResponse strings contentType
  | _ => .unknown

def UpstreamResponse.redirects (response : UpstreamResponse) : Bool := decide (300 ≤ response.status) && decide (response.status < 400)

-- A redirect is never converted, whatever its media type.
def responseMode (response : UpstreamResponse) : ResponseMode :=
  if response.redirects then .opaque_ else classifyResponseHeader strings response.contentTypes

def shouldAggregateSSE (request : Request) (metadata : Option RequestMetadata) (mode : ResponseMode) : Bool :=
  if request.method ≠ methodPost ∨ request.path ≠ chatCompletionsPath then false
  else decide (metadata.bind RequestMetadata.stream = some false) && decide (mode = .sse)

def deliveredMode (request : Request) (metadata : Option RequestMetadata) (response : UpstreamResponse) : ResponseMode :=
  if classifyActualResponseHeader strings response.contentTypes = .sse ∧
      shouldAggregateSSE request metadata (responseMode strings response) = true then .json
  else responseMode strings response

def requestedMode (metadata : Option RequestMetadata) : RequestMode :=
  match metadata.bind RequestMetadata.stream with
  | none => .unknown
  | some false => .json
  | some true => .sse

-- The letters of the two codings fold like ASCII ones.
def foldByte (byte : UInt8) : UInt8 := if 65 ≤ byte ∧ byte ≤ 90 then byte + 32 else byte

def equalFold (one two : Text) : Bool := decide (one.data.toList.map foldByte = two.data.toList.map foldByte)

def validateContentCoding (value : Text) : Option ContentCoding :=
  let trimmed := strings.trimSpace value
  if trimmed = .empty ∨ equalFold trimmed "identity".toUTF8 = true then some Observation.contentCodingIdentity
  else if equalFold trimmed "gzip".toUTF8 then some Observation.contentCodingGZIP
  else none

def responseObservationCoding : List Text → Option ContentCoding
  | [] => some Observation.contentCodingIdentity
  | [value] => validateContentCoding strings value
  | _ => none

end Classifiers

structure ResponseObservation where
  maxBytes : Nat
  coding : ContentCoding
  bytes : List UInt8
  overflow : Bool
  eligible : Bool
  canonical : Option (Usage × Money)
  bounded : bytes.length ≤ maxBytes
deriving DecidableEq

def newResponseObservation (maxBytes : Int) (coding : ContentCoding) : ResponseObservation :=
  { maxBytes := if maxBytes ≤ 0 then Observation.defaultUsageObservationMaxBytes else maxBytes.toNat
    coding := coding, bytes := [], overflow := false, eligible := false, canonical := none, bounded := Nat.zero_le _ }

namespace ResponseObservation

def record (observation : ResponseObservation) (written : List UInt8) : ResponseObservation :=
  if written = [] ∨ observation.overflow = true then observation
  else
    { observation with
      bytes := observation.bytes ++ written.take (observation.maxBytes - observation.bytes.length)
      overflow := decide (observation.maxBytes - observation.bytes.length < written.length)
      bounded := by
        have bounded := observation.bounded
        simp only [List.length_append, List.length_take]
        omega }

def finish (observation : ResponseObservation) (failed : Bool) : ResponseObservation :=
  { observation with eligible := !failed && !observation.overflow, bounded := observation.bounded }

def setCanonical (observation : ResponseObservation) (usage : Usage) (cost : Money) : ResponseObservation :=
  { observation with canonical := some (usage, cost), bounded := observation.bounded }

end ResponseObservation

end NineGateway.Proxy
