import ControlPlane.Kek.TokenCrypto
import ControlPlane.Library.TextOrder
import ControlPlane.Library.TextParts
import ControlPlane.SigV4.UriEncode

/-! AWS Signature Version 4, by headers. The canonical URI is used as given: S3 does not normalize
paths.
-/

namespace ControlPlane.SigV4

open ControlPlane.Kek (isTrimmed)
open ControlPlane.Library
open ControlPlane.Library.Percent (decodeURIComponent)
open ControlPlane.Library.TextOrder

abbrev Text := List Char

abbrev Bytes := List UInt8

-----------------------------------------------------------------------------------------
-- Requests
-----------------------------------------------------------------------------------------

/-- What the platform computes: digests, and letters in the other case. A text in lower case stays as
it is.
-/
structure Platform where
  sha256 : Bytes → Bytes
  hmac : Bytes → Bytes → Bytes
  toLowerCase : Text → Text
  toUpperCase : Text → Text
  lower_lower : ∀ text, toLowerCase (toLowerCase text) = toLowerCase text

/-- A URL, as far as it is signed. -/
structure Url where
  host : Text
  pathname : Text
  searchParams : List (Text × Text)
  deriving DecidableEq, Repr

/-- A header has one value, or an array of them. -/
structure SigV4Request where
  method : Text
  url : Url
  headers : List (Text × List Text)
  body : Option Text
  accessKeyId : Text
  secretAccessKey : Text
  sessionToken : Option Text
  region : Text
  service : Text
  amzDate : Text
  deriving DecidableEq, Repr

structure SigV4Result where
  authorization : Text
  headers : List (Text × Text)
  canonicalRequest : Text
  stringToSign : Text
  signature : Text
  deriving DecidableEq, Repr

-----------------------------------------------------------------------------------------
-- Texts
-----------------------------------------------------------------------------------------

def encodeText (text : Text) : Bytes :=
  text.flatMap String.utf8EncodeChar

def toHex (bytes : Bytes) : Text :=
  bytes.flatMap fun byte => (Nat.toDigits 16 byte.toNat).leftpad 2 '0'

def join (separator : Text) (parts : List Text) : Text :=
  separator.intercalate parts

/-- Every run of whitespace is one space. -/
def collapse : Text → Text
  | [] => []
  | c :: rest =>
      if isTrimmed c then if rest.head?.any isTrimmed then collapse rest else ' ' :: collapse rest
      else c :: collapse rest

def trimAll (value : Text) : Text :=
  collapse (TextParts.strip isTrimmed value)

-----------------------------------------------------------------------------------------
-- Maps
-----------------------------------------------------------------------------------------

/-- The value of a key in a map, which has its keys in the order in which they came. -/
def get? {ν : Type*} (map : List (Text × ν)) (key : Text) : Option ν :=
  (map.find? fun entry => entry.1 = key).map Prod.snd

/-- A key that is there keeps its place. -/
def put {ν : Type*} (key : Text) (value : ν) : List (Text × ν) → List (Text × ν)
  | [] => [(key, value)]
  | entry :: rest =>
      if entry.1 = key then (key, value) :: rest else entry :: put key value rest

section Signing

variable (platform : Platform)

def sha256Hex (data : Text) : Text :=
  toHex (platform.sha256 (encodeText data))

-----------------------------------------------------------------------------------------
-- The canonical request
-----------------------------------------------------------------------------------------

def hostName : Text := "host".toList

def amzDateName : Text := "x-amz-date".toList

def securityTokenName : Text := "x-amz-security-token".toList

/-- The headers that are collected: the values of each, under its name in lower case. -/
abbrev Collected := List (Text × List Text)

def add (collected : Collected) (header : Text × Text) : Collected :=
  let k := platform.toLowerCase header.1
  put k ((get? collected k).getD [] ++ [trimAll header.2]) collected

def addAbsent (collected : Collected) (name value : Text) : Collected :=
  if (get? collected name).isSome then collected else add platform collected (name, value)

/-- The headers one by one: an array has a header for every value. -/
def headerValues (headers : List (Text × List Text)) : List (Text × Text) :=
  headers.flatMap fun header => header.2.map fun value => (header.1, value)

def collect (req : SigV4Request) : Collected :=
  let given := (headerValues req.headers).foldl (add platform) []
  let withHost := addAbsent platform given hostName req.url.host
  let withDate := addAbsent platform withHost amzDateName req.amzDate
  match req.sessionToken with
  | none => withDate
  | some token =>
      if token = [] then withDate else addAbsent platform withDate securityTokenName token

def signedHeaderNames (collected : Collected) : List Text :=
  sortTexts (collected.map Prod.fst)

def headerValue (collected : Collected) (name : Text) : Text :=
  join [','] ((get? collected name).getD [])

/-- The order of the parameters: by the name, and by the value where names are equal. -/
def comparePairs (a b : Text × Text) : Ordering :=
  if codeUnits a.1 < codeUnits b.1 then .lt
  else if codeUnits b.1 < codeUnits a.1 then .gt
  else if codeUnits a.2 < codeUnits b.2 then .lt
  else if codeUnits b.2 < codeUnits a.2 then .gt
  else .eq

def encodePair (pair : Text × Text) : Text × Text :=
  (uriEncode pair.1 true, uriEncode pair.2 true)

def canonicalPairs (searchParams : List (Text × Text)) : List (Text × Text) :=
  (searchParams.map encodePair).insertionSort fun a b => comparePairs a b ≠ .gt

/-- The path as given, only percent-encoded. There is none where the path does not decode. -/
def canonicalUri (pathname : Text) : Option Text :=
  if pathname = [] then some ['/']
  else (decodeURIComponent pathname).map fun path => uriEncode path false

/-- The parts of a canonical request. -/
structure CanonicalRequest where
  method : Text
  uri : Text
  query : List (Text × Text)
  headers : List (Text × Text)
  payloadHash : Text
  deriving DecidableEq, Repr

def CanonicalRequest.text (canonical : CanonicalRequest) : Text :=
  join ['\n']
    [
      canonical.method,
      canonical.uri,
      join ['&'] (canonical.query.map fun pair => pair.1 ++ '=' :: pair.2),
      (canonical.headers.map fun header => header.1 ++ ':' :: (header.2 ++ ['\n'])).flatten,
      join [';'] (canonical.headers.map Prod.fst),
      canonical.payloadHash
    ]

def canonicalRequest (req : SigV4Request) (uri : Text) : CanonicalRequest where
  method := platform.toUpperCase req.method
  uri := uri
  query := canonicalPairs req.url.searchParams
  headers :=
    let collected := collect platform req
    (signedHeaderNames collected).map fun name => (name, headerValue collected name)
  payloadHash := sha256Hex platform (req.body.getD [])

-----------------------------------------------------------------------------------------
-- The signature
-----------------------------------------------------------------------------------------

def algorithm : Text := "AWS4-HMAC-SHA256".toList

def terminator : Text := "aws4_request".toList

def signSigV4 (req : SigV4Request) : Option SigV4Result :=
  (canonicalUri req.url.pathname).map fun uri =>
    let canonical := canonicalRequest platform req uri
    let date := req.amzDate.take 8
    let scope := join ['/'] [date, req.region, req.service, terminator]
    let stringToSign :=
      join ['\n'] [algorithm, req.amzDate, scope, sha256Hex platform canonical.text]
    let key :=
      [date, req.region, req.service, terminator].foldl
        (fun key part => platform.hmac key (encodeText part))
        (encodeText ("AWS4".toList ++ req.secretAccessKey))
    let signature := toHex (platform.hmac key (encodeText stringToSign))
    let names := canonical.headers.map Prod.fst
    let authorization :=
      algorithm ++ " Credential=".toList ++ req.accessKeyId ++ '/' :: scope
        ++ ", SignedHeaders=".toList ++ join [';'] names ++ ", Signature=".toList ++ signature
    let own : List (Text × Text) :=
      [("authorization".toList, authorization),
        ("x-amz-content-sha256".toList, canonical.payloadHash)]
    let sent := canonical.headers.filter fun header => header.1 ≠ hostName
    {
      authorization,
      headers := sent.foldl (fun headers header => put header.1 header.2 headers) own,
      canonicalRequest := canonical.text,
      stringToSign,
      signature
    }

end Signing

end ControlPlane.SigV4
