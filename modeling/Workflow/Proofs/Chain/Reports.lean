import Workflow.Proofs.Chain.Abort
import Workflow.Proofs.Chain.Outcome
import Workflow.Proofs.Node.Footprint
import Workflow.Proofs.Node.Parameters

/-!
# Nodes that report their failures

Two nodes fail softly: the one that sends mail and the one that summarises videos. Once they have
all they need to start, they return normally whatever becomes of their work, and leave a report of
it. A work that has failed is reported twice, on record and as output, and for the same reason. So a
run that aborts at recorded errors ends with that reason, and a run that goes on hands it to the
next step.

## Main definitions

* `Report` — what work has come to, and what that leaves of a state.
* `IsBound` — a node that fails softly has all it needs to start.
* `Reports` — the report of a node's work.
* `reports_of_isBound` — such a node returns normally and leaves its report.
* `reports_of_bound` — that, and what a chain makes of the report.
-/

namespace Workflow

open Workflow.Action

/-! ## Reports -/

/-- What work has come to: an output, or the reason of a failure and what is put out instead. -/
inductive Report where
  | done (output : Value)
  | failed (reason : String) (output : Value)
  deriving Repr

/-- What a report leaves of a state. Only a failure is recorded. -/
def Report.leave (state : State) : Report → State
  | .done output => state.withOutput output
  | .failed reason output => (state.withError reason).withOutput output

/-- A report can be told from what it leaves of a state without an error. -/
theorem Report.eq_failed_of_leave {report : Report} {state : State} {reason : String}
    {output : Value} (clean : state.error = none)
    (left : report.leave state = (failed reason output).leave state) :
    report = failed reason output := by
  have error := congrArg State.error left
  have put := congrArg State.output left
  cases report with
  | done other =>
      change state.error = some reason at error
      rw [clean] at error
      cases error
  | failed other another =>
      cases error
      cases put
      rfl

/-- A mail that is not sent is reported in the same words on record and as output. -/
def Email.report (settings : MailSettings) : Except String Unit → Report
  | .ok () => .done (.string ("Email sent to " ++ settings.recipient))
  | .error reason => .failed ("Email failed: " ++ reason) (.string ("Email failed: " ++ reason))

/-- A video that is not summarised is reported with a status and the reason on record. -/
def VideoSummary.report (options : VideoOptions) : Except Failure String → Report
  | .ok summary => .done (.object [("status", .string "success"), ("summary", .string summary),
      ("video_id", .string options.videoId)])
  | .error failure => .failed failure.detail
      (.object [("reason", .string failure.detail), ("status", .string "failed")])

/-- A mail can be made up: there is something to send, and the settings are complete. -/
structure Email.IsReady (params : Params) (state : State) (settings : MailSettings)
    (subject content : String) : Prop where
  filled : state.outputText? = some content
  complete : ∃ fields, state.credentials.requiredObject "email_config" = .ok fields ∧
    MailSettings.ofFields fields = .ok settings
  titled : ∃ asked, params.filledString "subject" = .ok asked ∧
    subject = (asked <|> settings.subject).getD Email.defaultSubject

/-- A node that fails softly has all it needs to start: parameters that it accepts and, if it is to
send mail, something to send and complete settings. -/
inductive IsBound : Node → Params → State → Prop
  | email {params : Params} {state : State} {content : String} {fields : Fields Value}
      {settings : MailSettings} (accepted : email.check params = .ok ())
      (filled : state.outputText? = some content)
      (known : state.credentials.requiredObject "email_config" = .ok fields)
      (complete : MailSettings.ofFields fields = .ok settings) :
      IsBound email params state
  | videoSummary {youTube openAi : String} {params : Params} {state : State}
      (accepted : (videoSummary youTube openAi).check params = .ok ()) :
      IsBound (videoSummary youTube openAi) params state

/-- What sending a mail comes to, where `reply` is what the mail server makes of it. Both addresses
have to be such, also as they are read from the head of the mail, and the server has to accept
it. -/
inductive Email.ComesTo (settings : MailSettings) (subject content : String)
    (reply : MailSession → MailReply) : Except String Unit → Prop
  | noSender (unread : MailAddress.parse? settings.sender = none) :
      ComesTo settings subject content reply (.error "invalid sender: <address>")
  | noRecipient {sender : MailAddress} (read : MailAddress.parse? settings.sender = some sender)
      (unread : MailAddress.parse? settings.recipient = none) :
      ComesTo settings subject content reply (.error "invalid recipient: <address>")
  | noHead {sender recipient : MailAddress}
      (read : MailAddress.parse? settings.sender = some sender)
      (read' : MailAddress.parse? settings.recipient = some recipient)
      (unsent : sender.sent? = none ∨ recipient.sent? = none) :
      ComesTo settings subject content reply (.error "<smtp>")
  | replied {sender recipient sender' recipient' : MailAddress}
      (read : MailAddress.parse? settings.sender = some sender)
      (read' : MailAddress.parse? settings.recipient = some recipient)
      (sent : sender.sent? = some sender') (sent' : recipient.sent? = some recipient')
      {outcome : Except String Unit}
      (replies :
        let mail : Mail := {
          sender := String.ofList sender'.text, recipient := String.ofList recipient'.text
          subject, body := content }
        let answer := reply
          ⟨settings.server, settings.port, settings.username, settings.password, mail⟩
        outcome = if answer = .accepted then .ok () else .error "<smtp>") :
      ComesTo settings subject content reply outcome

/-- The report of a node's work on a scene: the mail is sent or not, the video is summarised or not,
after the node has told what it is about to do. -/
inductive Reports : Node → Context → Scene → Report → Prop
  | email {context : Context} {scene : Scene} {settings : MailSettings} {subject content : String}
      {outcome : Except String Unit}
      (ready : Email.IsReady context.params scene.state settings subject content)
      (sends : (Email.send settings subject content
        (scene.told ("Sending email to " ++ settings.recipient))).1 = .ok outcome)
      (comesTo : Email.ComesTo settings subject content
        (scene.world.peers.mail scene.world.deliveries) outcome) :
      Reports email context scene (Email.report settings outcome)
  | videoSummary {youTube openAi : String} {context : Context} {scene : Scene}
      {options : VideoOptions} {outcome : Except Failure String}
      (read : VideoOptions.ofParams context.params = .ok options)
      (summarises : (VideoSummary.summary youTube openAi options
        (scene.told ("Fetching transcript for video " ++ options.videoId))).1 = outcome) :
      Reports (videoSummary youTube openAi) context scene (VideoSummary.report options outcome)

/-! ## Single nodes -/

namespace Action
variable {α : Type}

theorem fst_attempt (action : Action α) (scene : Scene) :
    (action.attempt scene).1 = .ok (action scene).1 := rfl

/-- Quiet work whose outcome is reported leaves nothing of a scene but the report. -/
theorem Quiet.leaves {action : Action α} (quiet : Quiet action) {a : α} {scene : Scene}
    {message : String} (gives : (action (scene.told message)).1 = .ok a) (report : α → Report) :
    let left := (action >>= fun a => modifyState fun state => (report a).leave state)
      (scene.told message)
    left.1 = .ok () ∧ left.2.state = (report a).leave scene.state := by
  intro left
  have kept : (action (scene.told message)).2.state = scene.state := (quiet _).1
  rcases bind_cases action (fun a => modifyState fun state => (report a).leave state)
      (scene.told message) with ⟨failure, failed, -⟩ | ⟨b, same, whole⟩
  · rw [gives] at failed
    cases failed
  · rw [gives] at same
    cases same
    have run : left = (.ok (), { (action (scene.told message)).2 with
        state := (report a).leave (action (scene.told message)).2.state }) := whole
    rw [run, kept]
    exact ⟨rfl, rfl⟩

end Action

theorem Email.exists_isReady {params : Params} {state : State} {fields : Fields Value}
    {settings : MailSettings} {content : String} (accepted : email.check params = .ok ())
    (filled : state.outputText? = some content)
    (known : state.credentials.requiredObject "email_config" = .ok fields)
    (complete : MailSettings.ofFields fields = .ok settings) :
    ∃ subject, IsReady params state settings subject content := by
  obtain ⟨asked, read, -⟩ := map_eq_ok_iff.mp accepted
  exact ⟨_, filled, ⟨fields, known, complete⟩, _, Params.filledString_of_string read, rfl⟩

theorem Email.send_of_session {settings : MailSettings} {subject content : String}
    {made : MailSession} (ready : session settings subject content = .ok made) (scene : Scene) :
    (send settings subject content scene).1 =
      .ok (if scene.world.peers.mail scene.world.deliveries made = .accepted then .ok ()
        else .error "<smtp>") := by
  unfold send
  simp only [ready, bind_apply, Action.onWorld, World.mail]
  cases scene.world.peers.mail scene.world.deliveries made <;> rfl

theorem Email.send_of_unready {settings : MailSettings} {subject content reason : String}
    (unready : session settings subject content = .error reason) (scene : Scene) :
    (send settings subject content scene).1 = .ok (.error reason) := by
  unfold send
  rw [unready]
  rfl

/-- Sending a mail comes to what the addresses and the mail server make of it. -/
theorem Email.exists_comesTo (settings : MailSettings) (subject content : String) (scene : Scene) :
    ∃ outcome, (send settings subject content scene).1 = .ok outcome ∧
      ComesTo settings subject content (scene.world.peers.mail scene.world.deliveries) outcome := by
  cases read : MailAddress.parse? settings.sender with
  | none =>
      have unready : session settings subject content = .error "invalid sender: <address>" := by
        simp only [session, read]
        rfl
      exact ⟨_, send_of_unready unready scene, .noSender read⟩
  | some sender =>
      cases read' : MailAddress.parse? settings.recipient with
      | none =>
          have unready : session settings subject content =
              .error "invalid recipient: <address>" := by
            simp only [session, read, read']
            rfl
          exact ⟨_, send_of_unready unready scene, .noRecipient read read'⟩
      | some recipient =>
          cases sent : sender.sent? with
          | none =>
              have unready : session settings subject content = .error "<smtp>" := by
                simp only [session, read, read', sent]
                rfl
              exact ⟨_, send_of_unready unready scene, .noHead read read' (.inl sent)⟩
          | some sender' =>
              cases sent' : recipient.sent? with
              | none =>
                  have unready : session settings subject content = .error "<smtp>" := by
                    simp only [session, read, read', sent, sent']
                    rfl
                  exact ⟨_, send_of_unready unready scene, .noHead read read' (.inr sent')⟩
              | some recipient' =>
                  have ready : session settings subject content = .ok ⟨settings.server,
                      settings.port, settings.username, settings.password,
                      { sender := String.ofList sender'.text
                        recipient := String.ofList recipient'.text
                        subject, body := content }⟩ := by
                    simp only [session, read, read', sent, sent']
                    rfl
                  exact ⟨_, send_of_session ready scene, .replied read read' sent sent' rfl⟩

/-- With all that it needs, the mail node sends the mail and leaves a report. -/
theorem Email.run_of_isReady {context : Context} {scene : Scene} {settings : MailSettings}
    {subject content : String}
    (ready : IsReady context.params scene.state settings subject content) :
    email.run context scene =
      (send settings subject content >>= fun outcome =>
        modifyState fun state => (report settings outcome).leave state)
        (scene.told ("Sending email to " ++ settings.recipient)) := by
  obtain ⟨filled, ⟨fields, known, complete⟩, asked, titled, rfl⟩ := ready
  change Email.run context scene = _
  unfold Email.run
  rw [state_bind_apply]
  simp only [filled]
  rw [lift_bind_of_ok known, lift_bind_of_ok complete, lift_bind_of_ok titled, info_bind_apply]
  exact congrFun (bind_congr fun outcome => by cases outcome <;> rfl) _

/-- The node that summarises videos tries to, and leaves a report. -/
theorem VideoSummary.run_of_read {youTube openAi : String} {context : Context} {scene : Scene}
    {options : VideoOptions} (read : VideoOptions.ofParams context.params = .ok options) :
    (videoSummary youTube openAi).run context scene =
      ((summary youTube openAi options).attempt >>= fun outcome =>
        modifyState fun state => (report options outcome).leave state)
        (scene.told ("Fetching transcript for video " ++ options.videoId)) := by
  change VideoSummary.run youTube openAi context scene = _
  unfold VideoSummary.run
  rw [lift_bind_of_ok read, info_bind_apply]
  exact congrFun (bind_congr fun outcome => by cases outcome <;> rfl) _

/-- A node that fails softly returns normally once it is bound, and leaves its report. -/
theorem reports_of_isBound {node : Node} (context : Context) (scene : Scene)
    (bound : IsBound node context.params scene.state) :
    ∃ report, Reports node context scene report ∧ (node.run context scene).1 = .ok () ∧
      (node.run context scene).2.state = report.leave scene.state := by
  cases bound with
  | @email _ _ content fields settings accepted filled known complete =>
      obtain ⟨subject, ready⟩ := Email.exists_isReady accepted filled known complete
      let told := scene.told ("Sending email to " ++ settings.recipient)
      -- a mail that is not sent is no failure of sending it
      obtain ⟨outcome, sends, comesTo⟩ := Email.exists_comesTo settings subject content told
      refine ⟨Email.report settings outcome, .email ready sends comesTo, ?_⟩
      rw [Email.run_of_isReady ready]
      exact (Email.quiet_send settings subject content).leaves sends (Email.report settings)
  | @videoSummary youTube openAi _ _ accepted =>
      obtain ⟨options, read, -⟩ := map_eq_ok_iff.mp accepted
      have quiet := (VideoSummary.quiet_summary youTube openAi options).attempt
      have tried := fst_attempt (VideoSummary.summary youTube openAi options)
        (scene.told ("Fetching transcript for video " ++ options.videoId))
      refine ⟨_, .videoSummary read rfl, ?_⟩
      rw [VideoSummary.run_of_read read]
      exact quiet.leaves tried (VideoSummary.report options)

/-! ## Chains -/

namespace Chain

variable {policy : Policy} {steps : List Step} {state : State} {world : World} {i : ℕ}
  {turn : Turn}

/-- The first turn is executed in any case. -/
theorem getElem?_executed_zero (policy : Policy) (turn : Turn) (later : List Turn) :
    (executed policy (turn :: later))[0]? = some turn := by
  rw [executed]
  split <;> rfl

/-- Behind a turn that lets the run go on, the next step acts on what the turn has left. -/
theorem getElem?_executed_succ
    (found : (executed policy (course steps state world))[i]? = some turn)
    (goes : turn.stop? policy = none) {step : Step} (more : steps[i + 1]? = some step) :
    (executed policy (course steps state world))[i + 1]? =
      some (step.turn turn.after.state turn.after.world) := by
  induction steps generalizing state world i with
  | nil => simp at more
  | cons first rest ih =>
      simp only [course, executed] at found ⊢
      by_cases stops : ((first.turn state world).stop? policy).isSome = true
      · -- then nothing is executed behind the first turn, and that is not this one
        rw [if_pos stops] at found
        cases i with
        | zero =>
            simp only [List.getElem?_cons_zero, Option.some.injEq] at found
            rw [found, goes] at stops
            cases stops
        | succ i => simp at found
      · rw [if_neg stops] at found ⊢
        cases i with
        | succ i => exact ih (by simpa using found) (by simpa using more)
        | zero =>
            simp only [List.getElem?_cons_zero, Option.some.injEq] at found
            cases rest with
            | nil => simp at more
            | cons next later =>
                simp only [Nat.zero_add, List.getElem?_cons_succ, List.getElem?_cons_zero,
                  Option.some.injEq] at more ⊢
                rw [found, more, course, executed]
                split <;> rfl

/-- Every executed turn is that of its step, on the state and on some world that it found. -/
theorem exists_world_of_getElem?
    (found : (executed policy (course steps state world))[i]? = some turn) :
    ∃ here, turn = turn.step.turn turn.before here := by
  have member := List.mem_of_getElem? (getElem?_of_executed found)
  obtain ⟨step, -, before, here, rfl⟩ := exists_turn_of_mem_course member
  exact ⟨here, rfl⟩

end Chain

/-- Nodes that fail softly. Once one of them has all it needs to start, it returns normally on every
scene, and leaves the report of its work: the output if the work succeeded, with no error recorded,
and else a reason, which is recorded, and put out as well. In a chain that starts without an error
a failure that is reported ends a run that aborts, with the step and the reason, and a run that goes
on hands to the next step what was put out. -/
theorem reports_of_bound :
    (∀ (node : Node) (context : Context) (scene : Scene),
      IsBound node context.params scene.state →
        ∃ report, Reports node context scene report ∧ (node.run context scene).1 = .ok () ∧
          (node.run context scene).2.state = report.leave scene.state) ∧
    ∀ (chain : Chain) (state : State), state.error = none →
      ∀ (policy : Policy) (world : World) (i : ℕ) (turn : Turn),
        let turns := chain.turns policy state world
        turns[i]? = some turn → IsBound turn.step.node turn.step.params turn.before →
          ∃ found report, turn = turn.step.turn turn.before found ∧
            Reports turn.step.node turn.step.context ⟨turn.before, found, []⟩ report ∧
            turn.result = .ok () ∧ turn.after.state = report.leave turn.before ∧
            ∀ reason output, report = .failed reason output →
              (policy = .abort → (chain.run policy state world).outcome =
                .error (.softFailure turn.step.nodeId turn.step.position reason)) ∧
              (policy = .goOn → ∀ step, chain.steps[i + 1]? = some step →
                ∃ next, turns[i + 1]? = some next ∧ next.step = step ∧
                  next.before.output = some output) := by
  refine ⟨fun node context scene bound => reports_of_isBound context scene bound, ?_⟩
  intro chain state clean policy world i turn turns executed bound
  obtain ⟨found, same⟩ := Chain.exists_world_of_getElem? executed
  obtain ⟨report, reports, ok, left⟩ :=
    reports_of_isBound turn.step.context ⟨turn.before, found, []⟩ bound
  have result : turn.result = .ok () := by
    rw [same]
    exact ok
  have after : turn.after.state = report.leave turn.before := by
    rw [same]
    exact left
  refine ⟨found, report, same, reports, result, after, ?_⟩
  rintro reason output rfl
  refine ⟨?_, ?_⟩
  · rintro rfl
    have started : turn.before.error = none :=
      Chain.clean_of_executed clean world turn (List.mem_of_getElem? executed)
    have stop := Turn.stop?_abort_of_recorded started result (congrArg State.error after)
    rw [Chain.run_eq]
    exact (Chain.ending_of_stop? executed stop state).2
  · rintro rfl step more
    have goes : turn.stop? .goOn = none := by simp [Turn.stop?, result]
    refine ⟨_, Chain.getElem?_executed_succ executed goes more, rfl, ?_⟩
    change turn.after.state.output = some output
    rw [after]
    rfl

/-- A text to mail, and settings whose sender is no address. -/
def State.fromNowhere : State where
  userQuery := ""
  output := some (.string "hello")
  credentials := ⟨[("email_config", .object [("from_email", .string "nowhere"),
    ("password", .string "secret"), ("smtp_server", .string "mail.test"),
    ("to_email", .string "b@mail.test"), ("username", .string "a")])]⟩

/-- A site whose address is no URL ends a run that aborts; a run that goes on hands the complaint to
the next step. So it is with a mail whose sender has no address. -/
theorem reports_of_bound_nowhere :
    let node := videoSummary "nowhere" "nowhere"
    let params : Params := ⟨[("video_id", .string "abc")]⟩
    let state : State := { userQuery := "" }
    let chain : Chain := ⟨[⟨"video_summary", 0, node, params⟩, ⟨"video_summary", 1, node, params⟩]⟩
    let reason := "YouTube request failed: <transport>"
    let mailing : Chain := ⟨[⟨"email", 0, email, {}⟩, ⟨"video_summary", 1, node, params⟩]⟩
    let unsent := "Email failed: invalid sender: <address>"
    (IsBound node params state ∧ state.error = none ∧
      (chain.run .abort state default).outcome =
        .error (.softFailure "video_summary" 0 reason) ∧
      ∃ next, (chain.turns .goOn state default)[1]? = some next ∧
        next.before.output =
          some (.object [("reason", .string reason), ("status", .string "failed")])) ∧
    IsBound email {} .fromNowhere ∧
      (mailing.run .abort .fromNowhere default).outcome =
        .error (.softFailure "email" 0 unsent) ∧
      ∃ next, (mailing.turns .goOn .fromNowhere default)[1]? = some next ∧
        next.before.output = some (.string unsent) := by
  intro node params state chain reason mailing unsent
  constructor
  · have bound : IsBound node params state := .videoSummary rfl
    let turn := (⟨"video_summary", 0, node, params⟩ : Step).turn state default
    have left : turn.after.state = (Report.failed reason
        (.object [("reason", .string reason), ("status", .string "failed")])).leave state := rfl
    obtain ⟨_, aborts, _, -, -, after, stops⟩ :=
      reports_of_bound.2 chain state rfl .abort default 0 turn rfl bound
    obtain ⟨_, goes, _, -, -, after', hands⟩ :=
      reports_of_bound.2 chain state rfl .goOn default 0 turn rfl bound
    have reported := Report.eq_failed_of_leave rfl (after.symm.trans left)
    have reported' := Report.eq_failed_of_leave rfl (after'.symm.trans left)
    obtain ⟨next, found, -, handed⟩ := (hands _ _ reported').2 rfl _ rfl
    exact ⟨bound, rfl, (stops _ _ reported).1 rfl, next, found, handed⟩
  · have bound : IsBound email {} .fromNowhere := .email rfl rfl rfl rfl
    -- whatever is reported, it is that the sender has no address
    have failed {world : World} {report : Report} (reports : Reports email ⟨"email", 0, {}⟩
        ⟨.fromNowhere, world, []⟩ report) : report = .failed unsent (.string unsent) := by
      have unread : MailAddress.parse? "nowhere" = none := by decide +kernel
      generalize same : email = mail at reports
      cases reports with
      | videoSummary =>
          exact absurd (congrArg Node.id same) (by decide : "email" ≠ "video_summary")
      | email ready sends comesTo =>
          obtain ⟨fields, known, complete⟩ := ready.complete
          cases known
          cases complete
          cases comesTo with
          | noSender => rfl
          | noRecipient read => cases unread.symm.trans read
          | noHead read => cases unread.symm.trans read
          | replied read => cases unread.symm.trans read
    let turn := (⟨"email", 0, email, {}⟩ : Step).turn .fromNowhere default
    have executed (policy : Policy) :
        (mailing.turns policy .fromNowhere default)[0]? = some turn :=
      Chain.getElem?_executed_zero policy turn _
    obtain ⟨_, _, -, reports, -, -, stops⟩ :=
      reports_of_bound.2 mailing .fromNowhere rfl .abort default 0 turn (executed _) bound
    obtain ⟨_, _, -, reports', -, -, hands⟩ :=
      reports_of_bound.2 mailing .fromNowhere rfl .goOn default 0 turn (executed _) bound
    obtain ⟨next, found, -, handed⟩ := (hands _ _ (failed reports')).2 rfl _ rfl
    exact ⟨bound, (stops _ _ (failed reports)).1 rfl, next, found, handed⟩

end Workflow
