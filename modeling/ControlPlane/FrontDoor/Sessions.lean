import ControlPlane.Crypto.Digests
import ControlPlane.Store.Accounts

/-! The statements on cookie sessions and on acceptances of the policy, and what the tables say of who
signed in and who accepted what.
-/

namespace ControlPlane.FrontDoor

open ControlPlane.Crypto
open ControlPlane.Library
open ControlPlane.Store

-----------------------------------------------------------------------------------------
-- Sessions
-----------------------------------------------------------------------------------------

/-- Thirty days, in milliseconds. -/
def SESSION_TTL_MS : Nat := 30 * 24 * 60 * 60 * 1000

/-- The row of a new session. Of the token it has the hash only. -/
def sessionRow (sha256 : Sha256) (accountId token : String) (now : Nat) : Session where
  tokenHash := sha256Hex sha256 token
  accountId := accountId
  expiresAt := now + SESSION_TTL_MS

/-- INSERT INTO sessions. A hash that is taken throws. -/
def createSession (sessions : Sessions) (row : Session) : Option Sessions :=
  if free : ∀ old ∈ sessions.rows, old.tokenHash ≠ row.tokenHash then
    some (sessions.insert row free)
  else none

/-- UPDATE sessions SET revoked_at WHERE token_hash AND revoked_at IS NULL. -/
def revokeSession (tokenHash : String) (now : Nat) : Update Session.tokenHash where
  target := tokenHash
  guard session := session.revokedAt = none
  set session := { session with revokedAt := some now }
  keeps _ := rfl

-----------------------------------------------------------------------------------------
-- Acceptances
-----------------------------------------------------------------------------------------

/-- A recorded acceptance of one version of the policy, with the digest of the text that was served. -/
structure AupAcceptance where
  accountId : String
  version : String
  aupSha256 : String
  acceptedAt : String
  ipHash : Option String
  userAgent : Option String
  deriving DecidableEq, Repr

def AupAcceptance.key (row : AupAcceptance) : String × String :=
  (row.accountId, row.version)

/-- The acceptances, in the order of their ids. No two are of one account and one version. -/
abbrev AupAcceptances := Keyed AupAcceptance.key

/-- SELECT id FROM aup_acceptances WHERE account_id AND aup_version. -/
def hasAcceptedAup (acceptances : AupAcceptances) (accountId version : String) : Bool :=
  (acceptances.get? (accountId, version)).isSome

/-- SELECT ... WHERE account_id ORDER BY id DESC LIMIT 1. -/
def getLastAupAcceptance (acceptances : AupAcceptances) (accountId : String)
    : Option AupAcceptance :=
  (acceptances.rows.filter fun row => row.accountId = accountId).getLast?

/-- INSERT OR IGNORE INTO aup_acceptances. -/
def recordAupAcceptance (acceptances : AupAcceptances) (row : AupAcceptance) : AupAcceptances :=
  acceptances.insertOrIgnore row

/-- What was recorded stays as it was recorded. -/
theorem mem_recordAupAcceptance {acceptances : AupAcceptances} {row old : AupAcceptance}
    : old ∈ (recordAupAcceptance acceptances row).rows
      → old ∈ acceptances.rows ∨ old = row := by
  intro isRow
  rcases acceptances.insertOrIgnore_rows row with same | added
  · exact .inl (same ▸ isRow)
  · have inAdded : old ∈ acceptances.rows ++ [row] := added ▸ isRow
    simpa using inAdded

-----------------------------------------------------------------------------------------
-- Times
-----------------------------------------------------------------------------------------

def areDigits (count : Nat) (text : List Char) : Bool :=
  text.length = count ∧ text.all Char.isDigit

/-- [Zz]$ or [+-]\d{2}:?\d{2}$ -/
def endsZoned (text : List Char) : Bool :=
  let last := fun count => text.drop (text.length - count)
  (text.getLast?.any fun c => c = 'Z' ∨ c = 'z')
  ∨ ((last 5).head?.any (fun c => c = '+' ∨ c = '-') ∧ areDigits 4 ((last 5).drop 1))
  ∨ ((last 6).head?.any (fun c => c = '+' ∨ c = '-') ∧ areDigits 2 (((last 6).drop 1).take 2)
    ∧ (last 6)[3]? = some ':' ∧ areDigits 2 ((last 6).drop 4))

/-- \d{4}-\d{2}-\d{2} -/
def isDay (text : List Char) : Bool :=
  text.length = 10 ∧ areDigits 4 (text.take 4) ∧ text[4]? = some '-'
  ∧ areDigits 2 ((text.drop 5).take 2) ∧ text[7]? = some '-' ∧ areDigits 2 (text.drop 8)

/-- \d{2}:\d{2}:\d{2} -/
def isTimeOfDay (text : List Char) : Bool :=
  text.length = 8 ∧ areDigits 2 (text.take 2) ∧ text[2]? = some ':'
  ∧ areDigits 2 ((text.drop 3).take 2) ∧ text[5]? = some ':' ∧ areDigits 2 (text.drop 6)

/-- (\.\d+)? -/
def isFraction : List Char → Bool
  | [] => true
  | c :: digits => c = '.' ∧ digits ≠ [] ∧ digits.all Char.isDigit

/-- A time of the database as an ISO text. What is no such time stays as it is. -/
def isoFromSqliteUtc (value : String) : String :=
  let text := value.toList
  let day := text.take 10
  let time := (text.drop 11).take 8
  let fraction := text.drop 19
  if endsZoned text then value
  else if isDay day ∧ (text[10]? = some ' ' ∨ text[10]? = some 'T') ∧ isTimeOfDay time
      ∧ isFraction fraction then
    String.ofList (day ++ 'T' :: time ++ fraction ++ ['Z'])
  else value

end ControlPlane.FrontDoor
