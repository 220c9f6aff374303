import ControlPlane.ApiTokens.Requests

/-! However requests for programmatic tokens are interleaved, and wherever they fail or go unheard: the
last word on a token decides what the studio lets in, and a token is given out only once its digest
stands in the database.
-/

namespace ControlPlane.ApiTokens

open ControlPlane.Crypto
open ControlPlane.Library
open ControlPlane.Store

-----------------------------------------------------------------------------------------
-- What stands
-----------------------------------------------------------------------------------------

def TokenQuery.name : TokenQuery → String
  | .selectLive name | .selectName name | .upsert name _ | .revoke name => name

/-- A statement installs or revokes the programmatic token. -/
def TokenQuery.speaks : TokenQuery → Bool
  | .upsert name _ | .revoke name => name = PROGRAMMATIC_TOKEN_NAME
  | .selectLive _ | .selectName _ => false

/-- What a statement leaves of the programmatic row. -/
def TokenQuery.leaves (row? : Option ApiTokenRow) (dbNow : String) : TokenQuery → Option ApiTokenRow
  | .upsert name tokenHash =>
      if name = PROGRAMMATIC_TOKEN_NAME then some (.issued name tokenHash dbNow) else row?
  | .revoke name =>
      if name = PROGRAMMATIC_TOKEN_NAME then row?.map fun row => row.revoke dbNow else row?
  | .selectLive _ | .selectName _ => row?

/-- An event is a word on the token of this database. -/
def TokenEvent.speaks (database : String) : TokenEvent → Bool
  | .ran _ place query _ => place = database && query.speaks
  | _ => false

def TokenEvent.leaves (database : String) (row? : Option ApiTokenRow)
    : TokenEvent → Option ApiTokenRow
  | .ran _ place query dbNow => if place = database then query.leaves row? dbNow else row?
  | _ => row?

variable (initial : String → TokenTable)

/-- The programmatic row of a database, as the history has it. -/
def standing (history : List TokenEvent) (database : String) : Option ApiTokenRow :=
  history.foldl (TokenEvent.leaves database) ((initial database).get? PROGRAMMATIC_TOKEN_NAME)

/-- What the studio itself last wrote of its table. -/
def TokenEvent.own (database : String) (table : TokenTable) : TokenEvent → TokenTable
  | .rewritten place written => if place = database then written else table
  | _ => table

def ownTable (history : List TokenEvent) (database : String) : TokenTable :=
  history.foldl (TokenEvent.own database) (initial database)

/-- No event is a word on the token of this database. -/
def Quiet (history : List TokenEvent) (database : String) : Prop :=
  ∀ event ∈ history, event.speaks database = false

variable {initial} {history before grown : List TokenEvent} {event : TokenEvent} {database : String}

theorem standing_append
    : standing initial (history ++ [event]) database
      = event.leaves database (standing initial history database) := by
  simp [standing]

theorem ownTable_append
    : ownTable initial (history ++ [event]) database
      = event.own database (ownTable initial history database) := by
  simp [ownTable]

theorem TokenQuery.leaves_of_not_speaks {query : TokenQuery} (unsaid : query.speaks = false)
    (row? : Option ApiTokenRow) (dbNow : String)
    : query.leaves row? dbNow = row? := by
  cases query with
  | selectLive name => rfl
  | selectName name => rfl
  | upsert name tokenHash => exact if_neg (of_decide_eq_false unsaid)
  | revoke name => exact if_neg (of_decide_eq_false unsaid)

theorem TokenEvent.leaves_of_not_speaks (unsaid : event.speaks database = false)
    (row? : Option ApiTokenRow)
    : event.leaves database row? = row? := by
  cases event with
  | ran party place query dbNow =>
      by_cases same : place = database
      · have silent : query.speaks = false := by simpa [TokenEvent.speaks, same] using unsaid
        exact (if_pos same).trans (query.leaves_of_not_speaks silent row? dbNow)
      · exact if_neg same
  | _ => rfl

/-- Where nobody says a word, what stood still stands. By induction on the events. -/
theorem foldl_leaves_of_quiet {row? : Option ApiTokenRow} (quiet : Quiet history database)
    : history.foldl (TokenEvent.leaves database) row? = row? := by
  induction history generalizing row? with
  | nil => rfl
  | cons event rest ih =>
      rw [List.foldl_cons, event.leaves_of_not_speaks (quiet event List.mem_cons_self)]
      exact ih fun later isLater => quiet later (List.mem_cons_of_mem _ isLater)

/-- The last word decides. -/
theorem standing_of_lastWord {rest : List TokenEvent} (quiet : Quiet rest database)
    : standing initial (before ++ event :: rest) database
      = event.leaves database (standing initial before database) := by
  rw [standing, List.foldl_append, List.foldl_cons, foldl_leaves_of_quiet quiet]
  rfl

-----------------------------------------------------------------------------------------
-- What may happen
-----------------------------------------------------------------------------------------

/-- The tenant is live and has this database, and its script had the secret that its gate requires. -/
structure Usable (before : List TokenEvent) (party : Party TokenRequest) (database : String)
    : Prop where
  live : party.request.tenant.status = .live
  provisioned : party.request.tenant.d1DatabaseId = some database
  gated : ∃ secrets, .listed party secrets ∈ before ∧ STUDIO_OPERATOR_SECRET ∈ secrets

variable (platform : TokenPlatform)

/-- What is stored of the token that a party draws. -/
def drawnHash (party : Party TokenRequest) : String :=
  sha256Hex platform.sha256 party.request.drawn

/-- The statement ran for the party, and before it this row stood. -/
def Saw (initial : String → TokenTable) (before : List TokenEvent) (party : Party TokenRequest)
    (database : String) (query : TokenQuery) (row? : Option ApiTokenRow)
    : Prop :=
  ∃ earlier dbNow, earlier ++ [.ran party database query dbNow] <+: before
    ∧ standing initial earlier database = row?

/-- The party looked for a row, and then installed the digest of its token. -/
def Installed (initial : String → TokenTable) (before : List TokenEvent)
    (party : Party TokenRequest) (database : String) (found : Option ApiTokenRow)
    : Prop :=
  ∃ earlier dbNow, Saw initial earlier party database (.selectName PROGRAMMATIC_TOKEN_NAME) found
    ∧ earlier ++ [.ran party database
        (.upsert PROGRAMMATIC_TOKEN_NAME (drawnHash platform party)) dbNow] <+: before

/-- What a request may put, by its method. -/
inductive Permitted (initial : String → TokenTable) (before : List TokenEvent)
    (party : Party TokenRequest) (database : String)
    : TokenQuery → Prop
  | read (asked : party.request.method = "GET")
      : Permitted initial before party database (.selectLive PROGRAMMATIC_TOKEN_NAME)
  | look (asked : party.request.method = "POST")
      : Permitted initial before party database (.selectName PROGRAMMATIC_TOKEN_NAME)
  | install (asked : party.request.method = "POST") (found : Option ApiTokenRow)
      (saw : Saw initial before party database (.selectName PROGRAMMATIC_TOKEN_NAME) found)
      : Permitted initial before party database
          (.upsert PROGRAMMATIC_TOKEN_NAME (drawnHash platform party))
  | readBack (found : Option ApiTokenRow)
      (installed : Installed platform initial before party database found)
      : Permitted initial before party database (.selectLive PROGRAMMATIC_TOKEN_NAME)
  | revoke (asked : party.request.method = "DELETE")
      : Permitted initial before party database (.revoke PROGRAMMATIC_TOKEN_NAME)

/-- What a request is told of the row that stood when it read. -/
def told (row? : Option ApiTokenRow) (rotatedAt : Option String) : ApiTokenState :=
  tokenState rotatedAt ((row?.filter fun row => row.revokedAt.isNone).map .of)

/-- A token is given out after its digest was installed, a replacement stamped, and what stood then
read back.
-/
structure Gives (initial : String → TokenTable) (before : List TokenEvent)
    (party : Party TokenRequest) (given : MintedApiToken)
    : Prop where
  isDrawn : given.token = party.request.drawn
  isNamed : given.name = PROGRAMMATIC_TOKEN_NAME
  stood
    : ∃ database found earlier row? dbNow,
        Installed platform initial earlier party database found
        ∧ (found.isSome → .stamped party party.request.tenant.id ∈ earlier)
        ∧ earlier ++ [.ran party database (.selectLive PROGRAMMATIC_TOKEN_NAME) dbNow] <+: before
        ∧ standing initial earlier database = row?
        ∧ given.createdAt = (told row? party.request.apiTokenRotatedAt).createdAt.getD ""

/-- Why a request was refused. -/
def Refuses (before : List TokenEvent) (party : Party TokenRequest) : ApiTokenRefusal → Prop
  | .tenantNotLive => party.request.tenant.status ≠ .live
  | .notProvisioned =>
      party.request.tenant.d1DatabaseId.getD "" = "" ∨ party.request.tenant.scriptName.getD "" = ""
      ∨ ∃ secrets, .listed party secrets ∈ before ∧ STUDIO_OPERATOR_SECRET ∉ secrets
  | .tenantUnreachable => party.request.tenant.status = .live

def Answers (initial : String → TokenTable) (before : List TokenEvent)
    (party : Party TokenRequest)
    : TokenAnswer → Prop
  | .state shown =>
      party.request.method = "GET"
      ∧ ∃ database row?,
          Saw initial before party database (.selectLive PROGRAMMATIC_TOKEN_NAME) row?
          ∧ shown = told row? party.request.apiTokenRotatedAt
  | .minted given => Gives platform initial before party given
  | .revoked =>
      ∃ database row?, Saw initial before party database (.revoke PROGRAMMATIC_TOKEN_NAME) row?
  | .refused error => Refuses before party error.code
  | .unconfigured => platform.provisioner = false
  | .methodNotAllowed => party.request.method ∉ ["GET", "POST", "DELETE"]
  | .thrown => ∃ database found, Installed platform initial before party database found
      ∧ found.isSome

def Proper (initial : String → TokenTable) (before : List TokenEvent) : TokenEvent → Prop
  | .ran party database query _ =>
      Usable before party database ∧ Permitted platform initial before party database query
  | .stamped party tenantId =>
      tenantId = party.request.tenant.id
      ∧ ∃ database found, Installed platform initial before party database found ∧ found.isSome
  | .responded party answer => Answers platform initial before party answer
  | .listed .. | .rewritten .. => True

/-- All that happened was proper, and the databases are as the history has them. -/
structure TokenDb.Kept (initial : String → TokenTable) (db : TokenDb) : Prop where
  proper : InOrder (Proper platform initial) db.history
  stands
    : ∀ database,
        (db.databases database).get? PROGRAMMATIC_TOKEN_NAME = standing initial db.history database
  others
    : ∀ database name, name ≠ PROGRAMMATIC_TOKEN_NAME →
        (db.databases database).get? name = (ownTable initial db.history database).get? name

variable {platform} {db after : TokenDb} {party : Party TokenRequest} {query : TokenQuery}
  {row? : Option ApiTokenRow} {dbNow : String}

-----------------------------------------------------------------------------------------
-- Statements
-----------------------------------------------------------------------------------------

/-- What a statement does to the programmatic row. -/
theorem get?_write (query : TokenQuery) (dbNow : String) (table : TokenTable)
    : (query.write dbNow table).get? PROGRAMMATIC_TOKEN_NAME
      = query.leaves (table.get? PROGRAMMATIC_TOKEN_NAME) dbNow := by
  cases query with
  | selectLive name => rfl
  | selectName name => rfl
  | upsert name tokenHash =>
      rw [TokenQuery.write, Keyed.get?_upsert, TokenQuery.leaves]
      by_cases isToken : name = PROGRAMMATIC_TOKEN_NAME
      · subst isToken
        have isKey
            : PROGRAMMATIC_TOKEN_NAME
              = (ApiTokenRow.issued PROGRAMMATIC_TOKEN_NAME tokenHash dbNow).key := rfl
        rw [if_pos rfl, if_pos isKey]
        cases found : table.get? PROGRAMMATIC_TOKEN_NAME with
        | none => rfl
        | some row =>
            have isKey : row.name = PROGRAMMATIC_TOKEN_NAME := Keyed.get?_key found
            simp [ApiTokenRow.reissue, ApiTokenRow.issued, isKey]
      · have apart : PROGRAMMATIC_TOKEN_NAME ≠ (ApiTokenRow.issued name tokenHash dbNow).key :=
          fun same => isToken same.symm
        rw [if_neg isToken, if_neg apart]
  | revoke name =>
      rw [TokenQuery.write, TokenQuery.leaves]
      by_cases isToken : name = PROGRAMMATIC_TOKEN_NAME
      · subst isToken
        rw [if_pos rfl]
        cases found : table.get? PROGRAMMATIC_TOKEN_NAME with
        | none => rw [Update.get?_apply, found, Option.map_none, Option.map_none]
        | some row => exact Update.get?_apply_of_match _ found rfl
      · rw [if_neg isToken]
        exact Update.get?_apply_of_ne _ _ (Ne.symm isToken)

/-- Rows of other names are left alone. -/
theorem get?_write_of_ne {name : String} (apart : name ≠ query.name) (table : TokenTable)
    : (query.write dbNow table).get? name = table.get? name := by
  cases query with
  | selectLive _ => rfl
  | selectName _ => rfl
  | upsert other tokenHash =>
      rw [TokenQuery.write, Keyed.get?_upsert]
      exact if_neg apart
  | revoke other => exact Update.get?_apply_of_ne _ _ apart

/-- The first row that is selected is the one that stands, if it is live. -/
theorem head?_selectLive {table : TokenTable}
    (stands : table.get? PROGRAMMATIC_TOKEN_NAME = row?)
    : (rowsOf ((TokenQuery.selectLive PROGRAMMATIC_TOKEN_NAME).answer table)).head?
      = (row?.filter fun row => row.revokedAt.isNone).map .of := by
  rw [TokenQuery.answer, stands]
  cases row? with
  | none => rfl
  | some row => by_cases live : row.revokedAt.isNone <;> simp [rowsOf, live, Option.filter]

theorem selectName_eq_nil {table : TokenTable}
    (stands : table.get? PROGRAMMATIC_TOKEN_NAME = row?)
    : rowsOf ((TokenQuery.selectName PROGRAMMATIC_TOKEN_NAME).answer table) = [] ↔ row? = none := by
  rw [TokenQuery.answer, stands]
  cases row? <;> simp [rowsOf]

-----------------------------------------------------------------------------------------
-- Growing histories
-----------------------------------------------------------------------------------------

theorem Usable.later (usable : Usable history party database) (grows : history <+: grown)
    : Usable grown party database := by
  obtain ⟨live, provisioned, secrets, listed, gated⟩ := usable
  exact ⟨live, provisioned, secrets, grows.subset listed, gated⟩

theorem Saw.later (saw : Saw initial history party database query row?) (grows : history <+: grown)
    : Saw initial grown party database query row? := by
  obtain ⟨earlier, dbNow, upTo, stood⟩ := saw
  exact ⟨earlier, dbNow, upTo.trans grows, stood⟩

theorem Installed.later (installed : Installed platform initial history party database row?)
    (grows : history <+: grown)
    : Installed platform initial grown party database row? := by
  obtain ⟨earlier, dbNow, saw, upTo⟩ := installed
  exact ⟨earlier, dbNow, saw, upTo.trans grows⟩

theorem Permitted.later (permitted : Permitted platform initial history party database query)
    (grows : history <+: grown)
    : Permitted platform initial grown party database query := by
  cases permitted with
  | read asked => exact .read asked
  | look asked => exact .look asked
  | install asked found saw => exact .install asked found (saw.later grows)
  | readBack found installed => exact .readBack found (installed.later grows)
  | revoke asked => exact .revoke asked

theorem Refuses.later {code : ApiTokenRefusal} (refuses : Refuses history party code)
    (grows : history <+: grown)
    : Refuses grown party code := by
  cases code with
  | tenantNotLive => exact refuses
  | notProvisioned =>
      refine refuses.imp id fun rest => rest.imp id fun unlisted => ?_
      exact unlisted.imp fun secrets both => ⟨grows.subset both.1, both.2⟩
  | tenantUnreachable => exact refuses

theorem Permitted.name_eq (permitted : Permitted platform initial history party database query)
    : query.name = PROGRAMMATIC_TOKEN_NAME := by
  cases permitted <;> rfl

-----------------------------------------------------------------------------------------
-- Single steps
-----------------------------------------------------------------------------------------

/-- The history grows, and the databases stay true to it. -/
def Goes (platform : TokenPlatform) (initial : String → TokenTable) (before after : TokenDb)
    : Prop :=
  before.history <+: after.history ∧ after.Kept platform initial

theorem TokenDb.Kept.log (kept : db.Kept platform initial)
    (leaves : ∀ database row?, event.leaves database row? = row?)
    (own : ∀ database table, event.own database table = table)
    (proper : Proper platform initial db.history event)
    : Goes platform initial db (db.log event) := by
  refine ⟨List.prefix_append _ _, kept.proper.append proper, fun database => ?_,
    fun database name apart => ?_⟩
  · rw [TokenDb.log, standing_append, leaves]
    exact kept.stands database
  · rw [TokenDb.log, ownTable_append, own]
    exact kept.others database name apart

/-- A statement that is put to a usable database. -/
theorem TokenDb.Kept.run (kept : db.Kept platform initial)
    (usable : Usable db.history party database)
    (permitted : Permitted platform initial db.history party database query) (dbNow : String)
    : Goes platform initial db (db.run party database query dbNow) := by
  refine ⟨List.prefix_append _ _, kept.proper.append ⟨usable, permitted⟩, fun other => ?_,
    fun other name apart => ?_⟩
  · rw [TokenDb.run, TokenDb.log, standing_append, ← kept.stands other]
    by_cases same : other = database
    · subst same
      simp [TokenEvent.leaves, get?_write]
    · simp [TokenEvent.leaves, Function.update_of_ne same, Ne.symm same]
  · rw [TokenDb.run, TokenDb.log, ownTable_append]
    have unchanged
        : (Function.update db.databases database
            (query.write dbNow (db.databases database)) other).get? name
          = (db.databases other).get? name := by
      by_cases same : other = database
      · subst same
        rw [Function.update_self]
        exact get?_write_of_ne (permitted.name_eq ▸ apart) _
      · rw [Function.update_of_ne same]
    exact unchanged.trans (kept.others other name apart)

/-- A studio that writes its own rows. -/
theorem TokenDb.Kept.rewrite {change : String × TokenTable} (kept : db.Kept platform initial)
    (changed : db.rewrite change = some after)
    : Goes platform initial db after := by
  unfold TokenDb.rewrite at changed
  split at changed
  next same =>
    cases changed
    refine ⟨List.prefix_append _ _, kept.proper.append trivial, fun database => ?_,
      fun database name apart => ?_⟩
    · rw [TokenDb.log, standing_append]
      change _ = standing initial db.history database
      rw [← kept.stands database]
      by_cases isPlace : database = change.1
      · subst isPlace
        simp [same]
      · simp [Function.update_of_ne isPlace]
    · rw [TokenDb.log, ownTable_append, TokenEvent.own]
      by_cases isPlace : database = change.1
      · subst isPlace
        simp
      · rw [if_neg (Ne.symm isPlace), ← kept.others database name apart]
        simp [Function.update_of_ne isPlace]
  next => cases changed

-----------------------------------------------------------------------------------------
-- Programs
-----------------------------------------------------------------------------------------

/-- Each question of the program keeps the databases true to the history, if the others do, and where
it ends it has established something of its result.
-/
def Leading {ρ : Type} (platform : TokenPlatform) (initial : String → TokenTable)
    (party : Party TokenRequest) (program : TokenProgram ρ) (db : TokenDb)
    (post : TokenDb → ρ → Prop)
    : Prop :=
  program.Leads (TokenDb.serve party) Dialogue.Anything (Goes platform initial)
    (Goes platform initial) post db

/-- What the checks of a tenant establish. -/
def Checked (history : List TokenEvent) (party : Party TokenRequest)
    : Except ApiTokenError String → Prop
  | .ok database => Usable history party database
  | .error error => Refuses history party error.code

theorem getD_eq_of_filter_eq_none {text? : Option String}
    (nothing : text?.filter (· ≠ "") = none)
    : text?.getD "" = "" := by
  cases text? with
  | none => rfl
  | some text => simpa [Option.filter_eq_none_iff] using nothing

theorem eq_some_of_filter_eq_some {text? : Option String} {text : String}
    (something : text?.filter (· ≠ "") = some text)
    : text? = some text :=
  (Option.filter_eq_some_iff.mp something).1

theorem leading_requireUsableTenant (db : TokenDb)
    : Leading platform initial party (requireUsableTenant platform party.request.tenant) db
        fun after usable =>
          db.history <+: after.history ∧ Checked after.history party usable := by
  unfold requireUsableTenant
  split
  next notLive => exact ⟨List.prefix_rfl, notLive⟩
  next live =>
    rw [not_not] at live
    split
    next database script isDatabase isScript =>
      intro middle input goes _
      dsimp only [TokenDb.serve]
      split
      next fault _ => exact ⟨⟨List.prefix_rfl, goes.2⟩, goes.1, live⟩
      next =>
        have logged : Goes platform initial middle (middle.log (.listed party input.secrets)) :=
          goes.2.log (fun _ _ => rfl) (fun _ _ => rfl) trivial
        have happened : TokenEvent.listed party input.secrets
            ∈ (middle.log (.listed party input.secrets)).history :=
          List.mem_append_right _ (List.mem_singleton_self _)
        refine ⟨logged, ?_⟩
        dsimp only [Dialogue.andThen]
        split
        next listed =>
          exact ⟨goes.1.trans logged.1, live, eq_some_of_filter_eq_some isDatabase, _, happened,
            List.contains_iff_mem.mp listed⟩
        next unlisted =>
          refine ⟨goes.1.trans logged.1, .inr (.inr ⟨_, happened, fun listed => ?_⟩)⟩
          exact unlisted (List.contains_iff_mem.mpr listed)
    next missing =>
      refine ⟨List.prefix_rfl, ?_⟩
      cases isDatabase : party.request.tenant.d1DatabaseId.filter (· ≠ "") with
      | none => exact .inl (getD_eq_of_filter_eq_none isDatabase)
      | some database =>
          cases isScript : party.request.tenant.scriptName.filter (· ≠ "") with
          | none => exact .inr (.inl (getD_eq_of_filter_eq_none isScript))
          | some script => exact (missing database script isDatabase isScript).elim

/-- What a party hears of its statement. -/
def Heard (initial : String → TokenTable) (history grown : List TokenEvent)
    (party : Party TokenRequest) (database : String) (query : TokenQuery)
    : Except ApiTokenError TokenRows → Prop
  | .ok raw => ∃ earlier dbNow table, history <+: earlier
      ∧ earlier ++ [.ran party database query dbNow] <+: grown
      ∧ table.get? PROGRAMMATIC_TOKEN_NAME = standing initial earlier database
      ∧ raw = query.answer table
  | .error error => error.code = .tenantUnreachable

theorem leading_query (usable : Usable db.history party database)
    (permitted : Permitted platform initial db.history party database query)
    : Leading platform initial party (ApiTokens.query database query) db fun after answered =>
        db.history <+: after.history
          ∧ Heard initial db.history after.history party database query answered := by
  intro middle input goes _
  have ran := goes.2.run (usable.later goes.1) (permitted.later goes.1) input.dbNow
  dsimp only [TokenDb.serve]
  split
  next fault _ =>
    cases input.ran with
    | false => exact ⟨⟨List.prefix_rfl, goes.2⟩, goes.1, rfl⟩
    | true => exact ⟨ran, goes.1.trans ran.1, rfl⟩
  next =>
    exact ⟨ran, goes.1.trans ran.1, middle.history, input.dbNow, middle.databases database, goes.1,
      List.prefix_rfl, goes.2.stands database, rfl⟩

end ControlPlane.ApiTokens
