import PolicyServer.GateRequests
import PolicyServer.Lib.System

namespace PolicyServer

open Lib

/-!
# Whose response a handler returns

The file of a response is found by the transaction id alone, and nothing keeps
two requests from drawing the same one: a second handler may poll for the same
file, or find the file that was left when the first one gave up, and a late
report goes to whoever drew the id since.  `Permitted` has the draws of an id
that is free and the reports that answer the last request of their id; in runs
made of these every handler returns a response to its own request.
-/

/-- The text was read from a report that answers the handler's request. -/
def Exchange.Answered (self : Exchange) (handler : Nat) (text : List Byte) : Prop :=
  Exists fun number => Exists fun report =>
    self.reports[number]? = some report ∧ report.answers = some handler ∧
      text = fgets 400 (tagged report.text number)

/-- Between the draw of an id and the end of the polling. -/
def Handler.Waiting : Handler -> Prop
  | .drawn | .polling | .opened _ | .read _ => True
  | .fresh | .returned _ | .timedOut => False

instance (place : Handler) : Decidable place.Waiting :=
  match place with
  | .drawn | .polling | .opened _ | .read _ => instDecidableTrue
  | .fresh | .returned _ | .timedOut => instDecidableFalse

/-- Nobody waits for the id, and no response to it is left. -/
def Exchange.Free (self : Exchange) (id : UInt16) : Prop :=
  (forall handler, self.latest id = some handler -> ¬ (self.handlers handler).Waiting) ∧
    self.disk.names (gctlDecisionFile id) = none

instance (self : Exchange) (id : UInt16) : Decidable (self.Free id) :=
  inferInstanceAs (Decidable (_ ∧ _))

/-- The report answers the request that drew its id last. -/
def Exchange.Current (self : Exchange) (answers : Option Nat) (id : UInt16) : Prop :=
  answers ≠ none ∧ self.latest id = answers

instance (self : Exchange) (answers : Option Nat) (id : UInt16) :
    Decidable (self.Current answers id) :=
  inferInstanceAs (Decidable (_ ∧ _))

/-- The steps that keep the responses apart. -/
def Matched (self : Exchange) : ExchangeLabel -> Prop
  | .handler _ (.draw id _) => self.Free id
  | .report _ answers decoded opens =>
      decoded.response ≠ none -> opens = true ->
        self.Current answers decoded.rpt.transactionId
  | _ => True

instance (self : Exchange) (label : ExchangeLabel) : Decidable (Matched self label) :=
  match label with
  | .handler _ (.draw id _) => inferInstanceAs (Decidable (self.Free id))
  | .report _ answers decoded opens =>
      inferInstanceAs (Decidable (decoded.response ≠ none -> opens = true ->
        self.Current answers decoded.rpt.transactionId))
  | .handler _ (.send _) | .handler _ .open | .handler _ .fgets | .handler _ .remove
  | .handler _ .expire | .close _ => instDecidableTrue

/-! ## The name of a response -/

/-- Two ids have two files. -/
theorem gctlDecisionFile_injective {first second : UInt16}
    (same : gctlDecisionFile first = gctlDecisionFile second) : first = second := by
  have texts := congrArg String.toList same
  simp only [gctlDecisionFile, String.toList_append] at texts
  have digits : (toString first.toNat).toList = (toString second.toNat).toList :=
    List.append_cancel_left (List.append_cancel_right texts)
  rw [Nat.toString_eq_ofList_toDigits, Nat.toString_eq_ofList_toDigits, String.toList_ofList,
    String.toList_ofList] at digits
  have numbers := congrArg (fun digits => Nat.ofDigitChars 10 digits 0) digits
  simp only [Nat.ofDigitChars_ten_toDigits] at numbers
  exact UInt16.toNat_inj.mp numbers

/-- A report is written to the file of the id it carries. -/
theorem response_path {decoded : Decoded} {path text : String}
    (response : decoded.response = some (path, text)) :
    path = gctlDecisionFile decoded.rpt.transactionId := by
  unfold Decoded.response psPcmmReportDecision at response
  split at response
  · cases response
  split at response
  · cases response
  · rename_i written
    split at written
    · cases written
    · cases written
      cases response
      rfl

/-! ## The invariant -/

namespace Exchange

/-- What a file has in it: nothing, or the text of a report that answers this
handler. -/
def Holds (self : Exchange) (handler : Nat) (content : List Byte) : Prop :=
  content = [] ∨ Exists fun number => Exists fun report =>
    self.reports[number]? = some report ∧ report.answers = some handler ∧
      content = tagged report.text number

/-- A thread is about to write a report that answers this handler. -/
def Answers (self : Exchange) (writer : Writer) (handler : Nat) : Prop :=
  Exists fun report =>
    self.reports[writer.number]? = some report ∧ report.answers = some handler ∧
      report.text = writer.text

/-- The file of an id belongs to the handler that drew the id last. -/
structure Belongs (exchange : Exchange) (handler file : Nat) : Prop where
  holds : exchange.Holds handler (exchange.disk.content file)
  writers : forall session writer, exchange.writers session = some writer -> writer.file = file ->
    exchange.Answers writer handler ∧ exchange.disk.content file = []

structure Matching (exchange : Exchange) : Prop where
  fresh : forall handler, exchange.handlers handler = .fresh -> exchange.requests handler = none
  waiting : forall handler, (exchange.handlers handler).Waiting ->
    Exists fun request => exchange.requests handler = some request ∧
      exchange.latest request.id = some handler
  opened : forall handler file, exchange.handlers handler = .opened file ->
    Exists fun request => exchange.requests handler = some request ∧
      exchange.disk.names (gctlDecisionFile request.id) = some file
  answered : forall handler text,
    exchange.handlers handler = .read text ∨ exchange.handlers handler = .returned text ->
      exchange.Answered handler text
  files : forall id file, exchange.disk.names (gctlDecisionFile id) = some file ->
    Exists fun handler => exchange.latest id = some handler ∧ exchange.Belongs handler file
  writers : forall session writer, exchange.writers session = some writer ->
    writer.file < exchange.disk.used ∧
      Exists fun handler => exchange.Answers writer handler ∧
        Exists fun request => exchange.requests handler = some request ∧ request.session = session

theorem matching_start : start.Matching where
  fresh := fun _ _ => rfl
  waiting := fun _ impossible => impossible.elim
  opened := fun _ _ impossible => nomatch impossible
  answered := by
    rintro _ _ (impossible | impossible) <;> cases impossible
  files := fun _ _ impossible => nomatch impossible
  writers := fun _ _ impossible => nomatch impossible

section Steps

variable {self after : Exchange}

/-- A report stays under its number. -/
theorem report_kept {number : Nat} {report : Report} (found : self.reports[number]? = some report)
    (more : List Report) : (self.reports ++ more)[number]? = some report := by
  rcases List.getElem?_eq_some_iff.mp found with ⟨inside, _⟩
  rw [List.getElem?_append_left inside]
  exact found

theorem Answers.kept {writer : Writer} {handler : Nat} (answers : self.Answers writer handler)
    {more : List Report} (reports : after.reports = self.reports ++ more) :
    after.Answers writer handler := by
  rcases answers with ⟨report, found, answered⟩
  exact ⟨report, by rw [reports]; exact report_kept found more, answered⟩

theorem Answered.kept {handler : Nat} {text : List Byte} (answered : self.Answered handler text)
    {more : List Report} (reports : after.reports = self.reports ++ more) :
    after.Answered handler text := by
  rcases answered with ⟨number, report, found, answers⟩
  exact ⟨number, report, by rw [reports]; exact report_kept found more, answers⟩

/-- A file that is left alone still belongs to its handler. -/
theorem Belongs.kept {handler file : Nat} (belongs : self.Belongs handler file) {more : List Report}
    (reports : after.reports = self.reports ++ more)
    (content : after.disk.content file = self.disk.content file)
    (writers : forall session writer, after.writers session = some writer -> writer.file = file ->
      self.writers session = some writer) : after.Belongs handler file where
  holds := by
    rw [content]
    rcases belongs.holds with vacant | ⟨number, report, found, answers⟩
    · exact Or.inl vacant
    · exact Or.inr ⟨number, report, by rw [reports]; exact report_kept found more, answers⟩
  writers := by
    intro session writer writing same
    rcases belongs.writers session writer (writers session writer writing same) same with
      ⟨answers, vacant⟩
    exact ⟨answers.kept reports, content.trans vacant⟩

/-- Where reports, writers and contents stay, so does what belongs to whom. -/
theorem Belongs.of_same {handler file : Nat} (belongs : self.Belongs handler file)
    (reports : after.reports = self.reports) (writers : after.writers = self.writers)
    (content : after.disk.content = self.disk.content) : after.Belongs handler file :=
  belongs.kept (reports.trans (List.append_nil _).symm) (congrFun content file)
    (fun session _ writing _ => (congrFun writers session).symm.trans writing)

/-- Two requests that wait for one id are one. -/
theorem Matching.alone (matching : self.Matching) {first second : Nat} {asked asked' : Request}
    (firstWaits : (self.handlers first).Waiting) (secondWaits : (self.handlers second).Waiting)
    (firstAsks : self.requests first = some asked) (secondAsks : self.requests second = some asked')
    (same : asked.id = asked'.id) : first = second := by
  rcases matching.waiting first firstWaits with ⟨request, known, latest⟩
  rcases matching.waiting second secondWaits with ⟨request', known', latest'⟩
  cases firstAsks.symm.trans known
  cases secondAsks.symm.trans known'
  rw [same, latest'] at latest
  exact (Option.some.inj latest).symm

/-- A handler moves on by itself. -/
theorem Matching.move (matching : self.Matching) (handler : Nat) (place : Handler)
    (active : place ≠ .fresh)
    (stays : place.Waiting -> (self.handlers handler).Waiting)
    (opens : forall file, place = .opened file -> Exists fun request =>
      self.requests handler = some request ∧
        self.disk.names (gctlDecisionFile request.id) = some file)
    (answers : forall text, place = .read text ∨ place = .returned text ->
      self.Answered handler text) : (self.move handler place).Matching := by
  refine ⟨?_, ?_, ?_, ?_, ?_, matching.writers⟩
  · intro other isFresh
    rcases update_cases isFresh with ⟨_, impossible⟩ | ⟨_, before⟩
    · exact absurd impossible active
    · exact matching.fresh other before
  · intro other waits
    apply matching.waiting other
    generalize there : (self.move handler place).handlers other = moved at waits
    rcases update_cases there with ⟨rfl, rfl⟩ | ⟨_, before⟩
    · exact stays waits
    · exact before ▸ waits
  · intro other file isOpened
    rcases update_cases isOpened with ⟨rfl, same⟩ | ⟨_, before⟩
    · exact opens file same
    · exact matching.opened other file before
  · intro other text has
    generalize there : (self.move handler place).handlers other = moved at has
    rcases update_cases there with ⟨rfl, rfl⟩ | ⟨_, before⟩
    · exact answers text has
    · exact matching.answered other text (before ▸ has)
  · intro id file found
    rcases matching.files id file found with ⟨owner, latest, belongs⟩
    exact ⟨owner, latest, belongs.of_same rfl rfl rfl⟩

/-- What a handler with its file open reads answers its request. -/
theorem Matching.reads (matching : self.Matching) {handler file : Nat}
    (isOpened : self.handlers handler = .opened file) (filled : self.disk.content file ≠ []) :
    self.Answered handler (fgets 400 (self.disk.content file)) := by
  rcases matching.opened handler file isOpened with ⟨request, asks, found⟩
  rcases matching.waiting handler (by rw [isOpened]; trivial) with ⟨request', asks', latest⟩
  cases asks.symm.trans asks'
  rcases matching.files request.id file found with ⟨owner, latest', belongs⟩
  cases latest.symm.trans latest'
  rcases belongs.holds with vacant | ⟨number, report, known, answers, content⟩
  · exact absurd vacant filled
  · exact ⟨number, report, known, answers, by rw [content]⟩

theorem matching_draw {handler session : Nat} {id : UInt16} (matching : self.Matching)
    (free : self.Free id) (moved : self.handlerStep handler (.draw id session) = some after) :
    after.Matching := by
  simp only [handlerStep] at moved
  split at moved
  · rename_i isFresh
    cases moved
    have unasked := matching.fresh handler isFresh
    have active : Handler.drawn ≠ .fresh := by decide
    -- nothing else is known of this handler
    have requests {other : Nat} {request : Request} (asks : self.requests other = some request) :
        Function.update self.requests handler (some { id, session }) other = some request := by
      refine (Function.update_of_ne ?_ ..).trans asks
      intro same
      rw [same, unasked] at asks
      cases asks
    refine ⟨?_, ?_, ?_, ?_, ?_, ?_⟩
    · intro other isFresh'
      rcases update_cases isFresh' with ⟨_, impossible⟩ | ⟨apart, before⟩
      · exact absurd impossible active
      · exact (Function.update_of_ne apart ..).trans (matching.fresh other before)
    · intro other waits
      change (Function.update self.handlers handler Handler.drawn other).Waiting at waits
      generalize there : Function.update self.handlers handler .drawn other = place at waits
      rcases update_cases there with ⟨rfl, _⟩ | ⟨_, rfl⟩
      · exact ⟨{ id, session }, Function.update_self .., Function.update_self ..⟩
      · rcases matching.waiting other waits with ⟨request, asks, latest⟩
        refine ⟨request, requests asks, ?_⟩
        refine (Function.update_of_ne ?_ ..).trans latest
        intro again
        rw [again] at latest
        exact free.1 other latest waits
    · intro other file isOpened
      rcases update_cases isOpened with ⟨_, impossible⟩ | ⟨_, before⟩
      · cases impossible
      · rcases matching.opened other file before with ⟨request, asks, found⟩
        exact ⟨request, requests asks, found⟩
    · intro other text has
      apply matching.answered other text
      rcases has with isRead | isReturned
      · rcases update_cases isRead with ⟨_, impossible⟩ | ⟨_, before⟩
        · cases impossible
        · exact Or.inl before
      · rcases update_cases isReturned with ⟨_, impossible⟩ | ⟨_, before⟩
        · cases impossible
        · exact Or.inr before
    · intro other file found
      rcases matching.files other file found with ⟨owner, latest, belongs⟩
      refine ⟨owner, (Function.update_of_ne ?_ ..).trans latest, belongs.of_same rfl rfl rfl⟩
      intro again
      rw [again] at found
      cases free.2.symm.trans found
    · intro session' writer writing
      rcases matching.writers session' writer writing with
        ⟨inside, owner, answers, request, asks, same⟩
      exact ⟨inside, owner, answers, request, requests asks, same⟩
  · cases moved

/-- What has been sent decides only which reports come. -/
theorem Matching.sent (matching : self.Matching) (sent : Nat -> Bool) :
    ({ self with sent } : Exchange).Matching where
  fresh := matching.fresh
  waiting := matching.waiting
  opened := matching.opened
  answered := matching.answered
  files := by
    intro id file found
    rcases matching.files id file found with ⟨owner, latest, belongs⟩
    exact ⟨owner, latest, belongs.of_same rfl rfl rfl⟩
  writers := matching.writers

/-- The name of an id nobody waits for may go. -/
theorem Matching.unlink (matching : self.Matching) {id : UInt16}
    (unwanted : forall handler request, (self.handlers handler).Waiting ->
      self.requests handler = some request -> request.id ≠ id) :
    ({ self with disk := self.disk.unlink (gctlDecisionFile id) } : Exchange).Matching where
  fresh := matching.fresh
  waiting := matching.waiting
  opened := by
    intro handler file isOpened
    rcases matching.opened handler file isOpened with ⟨request, asks, found⟩
    have waits : (self.handlers handler).Waiting := by
      have isOpened : self.handlers handler = .opened file := isOpened
      rw [isOpened]
      trivial
    have apart : gctlDecisionFile request.id ≠ gctlDecisionFile id := fun same =>
      unwanted handler request waits asks (gctlDecisionFile_injective same)
    exact ⟨request, asks, (self.disk.unlink_of_ne apart).trans found⟩
  answered := matching.answered
  files := by
    intro other file found
    have apart : gctlDecisionFile other ≠ gctlDecisionFile id := by
      intro same
      rw [same, Disk.unlink_self] at found
      cases found
    rw [Disk.unlink_of_ne _ apart] at found
    rcases matching.files other file found with ⟨owner, latest, belongs⟩
    exact ⟨owner, latest, belongs.of_same rfl rfl rfl⟩
  writers := matching.writers

theorem matching_remove {handler : Nat} (matching : self.Matching)
    (moved : self.handlerStep handler .remove = some after) : after.Matching := by
  simp only [handlerStep] at moved
  split at moved
  · rename_i text request isRead asks
    cases moved
    have waits : (self.handlers handler).Waiting := by rw [isRead]; trivial
    have returned : (self.move handler (.returned text)).Matching := by
      refine matching.move handler (.returned text) (by nofun) (fun impossible => impossible.elim)
        (by nofun) ?_
      intro text' has
      rcases has with has | has <;> cases has
      exact matching.answered handler text (Or.inl isRead)
    refine returned.unlink ?_
    intro other request' waits' asks' same
    generalize there : (self.move handler (.returned text)).handlers other = place at waits'
    rcases update_cases there with ⟨_, rfl⟩ | ⟨apart, rfl⟩
    · exact waits'
    · exact apart (matching.alone waits' waits asks' asks same)
  · cases moved

theorem matching_handler {handler : Nat} {label : HandlerLabel} (matching : self.Matching)
    (matched : Matched self (.handler handler label))
    (moved : self.handlerStep handler label = some after) : after.Matching := by
  cases label with
  | draw id session => exact matching_draw matching matched moved
  | remove => exact matching_remove matching moved
  | send written =>
      simp only [handlerStep] at moved
      split at moved
      · rename_i isDrawn
        cases moved
        refine (matching.move handler .polling (by nofun) ?_ (by nofun) (by nofun)).sent _
        intro _
        rw [isDrawn]
        trivial
      · cases moved
  | «open» =>
      simp only [handlerStep] at moved
      split at moved
      · rename_i request polls asks
        split at moved
        · rename_i file found
          cases moved
          refine matching.move handler (.opened file) (by nofun) ?_ ?_ (by nofun)
          · intro _
            rw [polls]
            trivial
          · intro file' same
            cases same
            exact ⟨request, asks, found⟩
        · cases moved
          exact matching
      · cases moved
  | fgets =>
      simp only [handlerStep] at moved
      split at moved
      · rename_i file isOpened
        have waits : (self.handlers handler).Waiting := by rw [isOpened]; trivial
        split at moved
        · cases moved
          exact matching.move handler .polling (by nofun) (fun _ => waits) (by nofun) (by nofun)
        · rename_i filled
          cases moved
          refine matching.move handler _ (by nofun) (fun _ => waits) (by nofun) ?_
          intro text has
          rcases has with has | has <;> cases has
          exact matching.reads isOpened filled
      · cases moved
  | expire =>
      simp only [handlerStep] at moved
      split at moved
      · cases moved
        exact matching.move handler .timedOut (by nofun) (fun impossible => impossible.elim)
          (by nofun) (by nofun)
      · cases moved

/-- A thread writes the answers to requests that went to its session. -/
theorem Matching.session_of (matching : self.Matching) {session handler : Nat} {writer : Writer}
    (writing : self.writers session = some writer) (answers : self.Answers writer handler) :
    Exists fun request => self.requests handler = some request ∧ request.session = session := by
  rcases matching.writers session writer writing with ⟨_, owner, ⟨report, found, answered, _⟩, asks⟩
  rcases answers with ⟨report', found', answered', _⟩
  cases found.symm.trans found'
  cases answered.symm.trans answered'
  exact asks

/-- A thread that has the file of a request open is the one of its session. -/
theorem Matching.writer_session (matching : self.Matching) {session session' handler : Nat}
    {id : UInt16} {writer : Writer} (asks : self.requests handler = some { id, session })
    (latest : self.latest id = some handler) (writing : self.writers session' = some writer)
    (there : writer.file = (self.disk.create (gctlDecisionFile id)).2) : session' = session := by
  cases had : self.disk.names (gctlDecisionFile id) with
  | none =>
      have inside := (matching.writers session' writer writing).1
      rw [there, Disk.create_free had] at inside
      exact absurd inside (Nat.lt_irrefl _)
  | some file =>
      rw [Disk.create_named had] at there
      rcases matching.files id file had with ⟨owner, latest', belongs⟩
      cases latest.symm.trans latest'
      rcases matching.session_of writing (belongs.writers session' writer writing there).1 with
        ⟨request, asks', rfl⟩
      cases asks.symm.trans asks'
      rfl

theorem matching_report {session : Nat} {answers : Option Nat} {decoded : Decoded} {opens : Bool}
    (matching : self.Matching) (matched : Matched self (.report session answers decoded opens))
    (moved : self.reportStep session answers decoded opens = some after) : after.Matching := by
  unfold reportStep at moved
  split at moved
  · rename_i comes
    rcases comes with ⟨answering, idle⟩
    split at moved
    · cases moved
      exact matching
    rename_i path text response
    split at moved
    · rename_i opens
      cases moved
      rcases matched (by rw [response]; nofun) opens with ⟨solicited, latest⟩
      rcases Option.ne_none_iff_exists'.mp solicited with ⟨handler, rfl⟩
      rcases answering handler rfl with ⟨asks, _⟩
      cases response_path response
      generalize decoded.rpt.transactionId = id at *
      -- the report under its number, and the thread that writes it
      have numbered : (self.reports ++ [{ answers := some handler, text }])[self.reports.length]? =
          some { answers := some handler, text } := by
        rw [List.getElem?_append_right (Nat.le_refl _), Nat.sub_self]
        rfl
      have opened := self.disk.create_names (gctlDecisionFile id)
      refine ⟨matching.fresh, matching.waiting, ?_, ?_, ?_, ?_⟩
      · intro other file isOpened
        rcases matching.opened other file isOpened with ⟨request, asks, found⟩
        exact ⟨request, asks, Disk.create_names_kept _ found⟩
      · intro other text' has
        exact (matching.answered other text' has).kept rfl
      · intro other file found
        by_cases same : other = id
        · subst same
          cases opened.symm.trans found
          have vacant := self.disk.create_content (gctlDecisionFile other)
          refine ⟨handler, latest, Or.inl vacant, ?_⟩
          intro session' writer writing there
          rcases update_cases writing with ⟨_, new⟩ | ⟨another, before⟩
          · cases new
            exact ⟨⟨_, numbered, rfl, rfl⟩, vacant⟩
          · -- another thread that has the file open would be of the same session
            exact absurd (matching.writer_session asks latest before there) another
        · have apart : gctlDecisionFile other ≠ gctlDecisionFile id := fun again =>
            same (gctlDecisionFile_injective again)
          have differs : file ≠ (self.disk.create (gctlDecisionFile id)).2 := fun again =>
            apart ((self.disk.create (gctlDecisionFile id)).1.single _ _ file found (again ▸ opened))
          rcases matching.files other file
              ((self.disk.create_names_of_ne apart).symm.trans found) with ⟨owner, latest', belongs⟩
          refine ⟨owner, latest', belongs.kept rfl (self.disk.create_content_of_ne _ differs) ?_⟩
          intro session' writer writing there
          rcases update_cases writing with ⟨_, new⟩ | ⟨_, before⟩
          · cases new
            exact absurd there.symm differs
          · exact before
      · intro other writer writing
        rcases update_cases writing with ⟨rfl, new⟩ | ⟨_, before⟩
        · cases new
          exact ⟨(self.disk.create (gctlDecisionFile id)).1.named _ _ opened, handler,
            ⟨_, numbered, rfl, rfl⟩, _, asks, rfl⟩
        · rcases matching.writers other writer before with ⟨inside, owner, answered, asked⟩
          exact ⟨Nat.lt_of_lt_of_le inside (self.disk.create_used _), owner, answered.kept rfl,
            asked⟩
    · cases moved
      exact matching
  · cases moved

theorem matching_close {session : Nat} (matching : self.Matching)
    (moved : self.closeStep session = some after) : after.Matching := by
  unfold closeStep at moved
  split at moved
  · rename_i writer writing
    cases moved
    have older {other : Nat} {writer' : Writer}
        (writing' : Function.update self.writers session none other = some writer') :
        other ≠ session ∧ self.writers other = some writer' := by
      rcases update_cases writing' with ⟨_, impossible⟩ | ⟨apart, before⟩
      · cases impossible
      · exact ⟨apart, before⟩
    refine ⟨matching.fresh, matching.waiting, matching.opened, matching.answered, ?_, ?_⟩
    · intro id file found
      rcases matching.files id file found with ⟨owner, latest, belongs⟩
      refine ⟨owner, latest, ?_⟩
      by_cases same : writer.file = file
      · rcases belongs.writers session writer writing same with ⟨answers, vacant⟩
        cases same
        have content := self.disk.overwrite_self (tagged writer.text writer.number) vacant
        refine ⟨?_, ?_⟩
        · rcases answers with ⟨report, numbered, answered, text⟩
          exact Or.inr ⟨writer.number, report, numbered, answered, by rw [content, text]⟩
        · intro other writer' writing' same
          rcases older writing' with ⟨apart, before⟩
          rcases matching.session_of writing answers with ⟨request, asks, rfl⟩
          rcases matching.session_of before (belongs.writers other writer' before same).1 with
            ⟨request', asks', rfl⟩
          cases asks.symm.trans asks'
          exact absurd rfl apart
      · exact belongs.kept (List.append_nil _).symm
          (self.disk.overwrite_of_ne _ (Ne.symm same)) (fun _ _ writing' _ => (older writing').2)
    · intro other writer' writing'
      exact matching.writers other writer' (older writing').2
  · cases moved

end Steps

end Exchange

/-- In every run of handlers and session threads, made of draws of free ids and of
reports that answer the last request of their id, every text that a handler
returns was read from a report that answers its own request. -/
theorem returned_of_matched (exchange : Exchange)
    (reached : System.Run Exchange.step Matched .start exchange) (handler : Nat) (text : List Byte)
    (returned : exchange.handlers handler = .returned text) : exchange.Answered handler text := by
  have matching : exchange.Matching := by
    refine reached.invariant Exchange.Matching ?_ Exchange.matching_start
    intro self label after matching matched moved
    cases label with
    | handler handler label => exact Exchange.matching_handler matching matched moved
    | report session answers decoded opens =>
        exact Exchange.matching_report matching matched moved
    | close session => exact Exchange.matching_close matching moved
  exact matching.answered handler text (Or.inr returned)

/-- A gate acknowledged. -/
def acknowledged (id : UInt16) (gateId : UInt32) : Decoded :=
  { Decoded.initial with
    rpt := { PcmmRpt.initial with transactionId := id, gateId, gateCmd := "GATE-SET-ACK" } }

/-- A handler asks on a session. -/
def asking (handler session : Nat) (id : UInt16) : List ExchangeLabel :=
  [.handler handler (.draw id session), .handler handler (.send true)]

/-- A response to a handler is written. -/
def answering (handler session : Nat) (id : UInt16) : List ExchangeLabel :=
  [.report session (some handler) (acknowledged id 5) true, .close session]

/-- A handler finds its file. -/
def finding (handler : Nat) : List ExchangeLabel :=
  [.handler handler .open, .handler handler .fgets, .handler handler .remove]

/-- What a handler has returned, if it has. -/
def Exchange.returned (self : Exchange) (handler : Nat) : Option (List Byte) :=
  match self.handlers handler with
  | .returned text => some text
  | _ => none

theorem Exchange.handlers_of_returned {self : Exchange} {handler : Nat} {text : List Byte}
    (returned : self.returned handler = some text) : self.handlers handler = .returned text := by
  unfold Exchange.returned at returned
  split at returned
  · rename_i has
    cases returned
    exact has
  · cases returned

/-- Two handlers wait on two sessions, and a third draws transaction 7 again behind
the first. -/
theorem returned_of_matched_seven :
    Exists fun exchange => System.Run Exchange.step Matched .start exchange ∧
      forall handler, handler ∈ [0, 1, 2] -> Exists fun text =>
        exchange.handlers handler = .returned text ∧ exchange.Answered handler text := by
  have executed : ((System.executeWithin Exchange.step Matched .start
      (asking 0 0 7 ++ asking 1 1 8 ++ answering 1 1 8 ++ answering 0 0 7 ++ finding 0 ++
        asking 2 1 7 ++ finding 1 ++ answering 2 1 7 ++ finding 2)).map fun exchange =>
          [0, 1, 2].map fun handler => (exchange.returned handler).isSome) =
      some [true, true, true] := by decide
  rcases Option.map_eq_some_iff.mp executed with ⟨exchange, moved, returned⟩
  have reached := System.run_of_executeWithin moved
  refine ⟨exchange, reached, ?_⟩
  intro handler member
  have returns : (exchange.returned handler).isSome = true := by
    have mapped := List.mem_map_of_mem (f := fun handler => (exchange.returned handler).isSome) member
    rw [returned] at mapped
    simpa using mapped
  rcases Option.isSome_iff_exists.mp returns with ⟨text, has⟩
  have has := Exchange.handlers_of_returned has
  exact ⟨text, has, returned_of_matched exchange reached handler text has⟩

/-- Two requests draw transaction 7.  The only report answers the second, and the
first handler takes its file. -/
theorem response_to_another :
    Exists fun exchange => Exists fun text =>
      System.Run Exchange.step (fun _ _ => True) .start exchange ∧
        exchange.handlers 0 = .returned text ∧
          exchange.reports.map Report.answers = [some 1] ∧ ¬ exchange.Answered 0 text := by
  have executed : ((System.execute Exchange.step .start
      (asking 0 0 7 ++ asking 1 0 7 ++ answering 1 0 7 ++ finding 0)).map fun exchange =>
        ((exchange.returned 0).isSome, exchange.reports.map Report.answers)) =
      some (true, [some 1]) := by decide
  rcases Option.map_eq_some_iff.mp executed with ⟨exchange, moved, both⟩
  rcases Prod.mk.inj both with ⟨returns, reports⟩
  rcases Option.isSome_iff_exists.mp returns with ⟨text, returned⟩
  refine ⟨exchange, text, System.run_of_execute (fun _ _ _ => trivial) moved,
    Exchange.handlers_of_returned returned, reports, ?_⟩
  rintro ⟨number, report, found, answers, _⟩
  have member : report.answers ∈ exchange.reports.map Report.answers :=
    List.mem_map_of_mem (List.mem_of_getElem? found)
  rw [reports, answers] at member
  cases List.mem_singleton.mp member

end PolicyServer
