import Mathlib.Data.List.Forall2
import ThingLink.Link.Conversation
import ThingLink.Proofs.Handshake.Judgement
import ThingLink.Proofs.Handshake.Operation
import ThingLink.Proofs.Link.Run

/-!
# What a handshake reports

Timeouts are logged where the calls are made, everything else where it is decided what follows.
Together this reports every failed attempt once: as an error if it ends the handshake, or if
another attempt is unlikely to end otherwise, and else as a warning.
-/

namespace ThingLink

open Policy (classify_timeout)
open Text (bytes)

/-! ## Transports that log nothing -/

@[simp] theorem Journal.logLines_logAt (time : Nat) (lines : List LogLine) :
    (logAt time lines).logLines = lines := by
  simp [logAt, Journal.logLines, List.filterMap_map]

/-- A transport whose calls log nothing. -/
class QuietTransport (σ : Type) [Transport σ] : Prop where
  quiet (t : σ) (now : Nat) (horizon : Horizon) (request : List UInt8) :
    (Transport.call t now horizon request).journal.logLines = []

instance : QuietTransport ReplyScript where
  quiet script now horizon request := by
    simp only [Transport.call, ReplyScript.call]
    split <;> rfl

instance : QuietTransport Channel where
  quiet c now horizon request := by
    show (c.call now horizon request).journal.logLines = []
    rw [Channel.call_journal]
    simp [Channel.writesAt, Journal.logLines]

instance : QuietTransport Conversation where
  quiet c now horizon request :=
    QuietTransport.quiet (c.answer now request).channel now horizon request

/-! ## Failed attempts -/

/-- A failed attempt: its number, and what its reply means. -/
structure Failure (m : Method) where
  attempt : Nat
  answer : Except CallError m.Response

/-- Everything fails but a response that says success. -/
def Method.fails (m : Method) : Except CallError m.Response → Bool
  | .ok response => m.result response ≠ .success
  | .error _ => true

/-- That another attempt is unlikely to end otherwise. -/
def Failure.Permanent {m : Method} (f : Failure m) : Prop :=
  match f.answer with
  | .ok response => (m.result response).isPermanent = true
  | .error e => e.isRetryable = false

section Failures

variable {σ : Type} [Transport σ] {m : Method}

/-- The failure of a call behind so many others, unless it succeeds or is abandoned. -/
def Call.failure? (m : Method) (earlier : Nat) (call : Call σ) : Option (Failure m) :=
  ((call.reply?.map m.judge).filter m.fails).map (Failure.mk (min (earlier + 1) maxAttempts))

/-- The failures of calls behind so many others, the first one first. -/
def failures (m : Method) (earlier : Nat) (calls : List (Call σ)) : List (Failure m) :=
  (calls.zipIdx earlier).filterMap fun (call, index) => call.failure? m index

theorem failures_cons (earlier : Nat) (call : Call σ) (calls : List (Call σ)) :
    failures m earlier (call :: calls)
      = (call.failure? m earlier).toList ++ failures m (earlier + 1) calls := by
  simp only [failures, List.zipIdx_cons, List.filterMap_cons]
  cases call.failure? m earlier <;> rfl

theorem failures_single (m : Method) (earlier : Nat) (call : Call σ) :
    failures m earlier [call] = (call.failure? m earlier).toList := by
  rw [failures_cons]
  exact List.append_nil _

theorem fails_iff (policy : Policy) {answer : Except CallError m.Response} :
    m.fails answer = true ↔ ∀ response, policy.classify m answer ≠ .success response := by
  constructor
  · intro fails response success
    obtain ⟨rfl, code⟩ := Policy.classify_eq_success_iff.mp success
    simp [Method.fails, code] at fails
  · intro failed
    cases answer with
    | error e => rfl
    | ok response =>
      have code : m.result response ≠ .success := fun success =>
        failed response (Policy.classify_eq_success_iff.mpr ⟨rfl, success⟩)
      simp [Method.fails, code]

end Failures

/-! ## Lines of one attempt -/

/-- That a line reports a failure: with the text that belongs to it, and at the right level. -/
structure Reports (policy : Policy) (m : Method) (backoff : Nat) (f : Failure m)
    (line : LogLine) : Prop where
  timeout : f.answer = .error .timeout → line = .timedOut m
  retried : f.answer ≠ .error .timeout → ∀ reason,
    policy.classify m f.answer = .retryable reason →
      line = .attemptFailed m f.attempt reason backoff
  fatal : ∀ error, policy.classify m f.answer = .fatal error →
    line = .attemptFatal m f.attempt error
  error : line.level = .error ↔ (∃ error, policy.classify m f.answer = .fatal error) ∨ f.Permanent
  warn : line.level = .warn ↔ ¬((∃ error, policy.classify m f.answer = .fatal error) ∨ f.Permanent)

section Lines

variable {m : Method} {policy : Policy} {attempt backoff : Nat}

theorem timeout_of_reason {answer : Except CallError m.Response}
    (classified : policy.classify m answer = .retryable (.call .timeout)) :
    answer = .error .timeout := by
  cases answer with
  | ok response => cases Policy.reason_of_ok classified
  | error e =>
    cases Policy.reason_of_error classified
    rfl

theorem judge_eq_timeout_iff {reply : Reply} :
    m.judge reply = .error .timeout ↔ reply = .error .timeout := by
  constructor
  · intro judged
    unfold Method.judge at judged
    split at judged
    · cases judged
      rfl
    · split at judged
      · cases judged
      · split at judged <;> cases judged
  · rintro rfl
    rfl

theorem replyLines_of_ne {reply : Reply} (other : reply ≠ .error .timeout) :
    replyLines m reply = [] := by
  unfold replyLines
  split
  · contradiction
  · rfl

theorem reports_timeout : Reports policy m backoff ⟨attempt, .error .timeout⟩ (.timedOut m) where
  timeout _ := rfl
  retried other := absurd rfl other
  fatal error classified := by simp [classify_timeout] at classified
  error := by simp [LogLine.timedOut, classify_timeout, Failure.Permanent, CallError.isRetryable]
  warn := by simp [LogLine.timedOut, classify_timeout, Failure.Permanent, CallError.isRetryable]

theorem reports_fatal {answer : Except CallError m.Response} {error : RegistrationError}
    (classified : policy.classify m answer = .fatal error) :
    Reports policy m backoff ⟨attempt, answer⟩ (.attemptFatal m attempt error) where
  timeout timeout := by
    rw [show answer = _ from timeout, classify_timeout] at classified
    cases classified
  retried _ reason retryable := nomatch classified.symm.trans retryable
  fatal other final := by
    obtain rfl : error = other := Outcome.fatal.inj (classified.symm.trans final)
    rfl
  error := by simp [LogLine.attemptFatal, classified]
  warn := by simp [LogLine.attemptFatal, classified]

theorem permanent_iff {answer : Except CallError m.Response} {reason : RetryReason}
    (classified : policy.classify m answer = .retryable reason) :
    (Failure.mk attempt answer).Permanent ↔ reason.isPermanent = true := by
  cases answer with
  | ok response =>
    rw [Policy.reason_of_ok classified]
    rfl
  | error e =>
    rw [Policy.reason_of_error classified]
    simp [Failure.Permanent, RetryReason.isPermanent]

theorem reports_retried {answer : Except CallError m.Response} {reason : RetryReason}
    (other : answer ≠ .error .timeout) (classified : policy.classify m answer = .retryable reason) :
    Reports policy m backoff ⟨attempt, answer⟩ (.attemptFailed m attempt reason backoff) where
  timeout timeout := absurd timeout other
  retried _ again retryable := by
    obtain rfl : reason = again := Outcome.retryable.inj (classified.symm.trans retryable)
    rfl
  fatal error final := nomatch classified.symm.trans final
  error := by simp [LogLine.attemptFailed, classified, permanent_iff classified]
  warn := by simp [LogLine.attemptFailed, classified, permanent_iff classified]

/-- An attempt that has ended logs one line: that it succeeded, or the report of its failure. -/
theorem attempt_lines (policy : Policy) (m : Method) (attempt backoff : Nat) (reply : Reply) :
    let lines :=
      replyLines m reply ++ outcomeLines m attempt backoff (policy.classify m (m.judge reply))
    (∃ response, policy.classify m (m.judge reply) = .success response
        ∧ lines = [.succeeded m attempt])
      ∨ (m.fails (m.judge reply) = true
        ∧ ∃ line, lines = [line] ∧ Reports policy m backoff ⟨attempt, m.judge reply⟩ line) := by
  by_cases timeout : reply = .error .timeout
  · subst timeout
    right
    refine ⟨rfl, .timedOut m, ?_, reports_timeout⟩
    simp [Method.judge, classify_timeout, replyLines, outcomeLines]
  · have other : m.judge reply ≠ .error .timeout := mt judge_eq_timeout_iff.mp timeout
    rw [replyLines_of_ne timeout, List.nil_append]
    cases classified : policy.classify m (m.judge reply) with
    | success response => exact .inl ⟨response, rfl, rfl⟩
    | fatal error =>
      have fails : m.fails (m.judge reply) = true := (fails_iff policy).mpr (by simp [classified])
      exact .inr ⟨fails, .attemptFatal m attempt error, rfl, reports_fatal classified⟩
    | retryable reason =>
      have fails : m.fails (m.judge reply) = true := (fails_iff policy).mpr (by simp [classified])
      have line : outcomeLines m attempt backoff (.retryable reason)
          = [.attemptFailed m attempt reason backoff] := by
        -- the driver passes over timeouts alone, and this reply is none
        unfold outcomeLines
        split
        · next none => cases none
        · next same =>
          cases same
          exact absurd (timeout_of_reason classified) other
        · next same =>
          cases same
          rfl
        · next none => cases none
      exact .inr ⟨fails, _, line, reports_retried other classified⟩

end Lines

/-! ## Lines of a handshake -/

/-- What is logged behind the failures of a handshake that comes to this: only a success has a
last line. -/
def closingLines {α : Type} (m : Method) (attempts : Nat) :
    Option (Nat × Except RegistrationError α) → List LogLine
  | some (_, .ok _) => [.succeeded m (min attempts maxAttempts)]
  | some (_, .error _) | none => []

section Handshakes

variable {σ : Type} [Transport σ] {m : Method}

/-- That the lines of a handshake report its failures one by one, when it has made these calls
behind so many others and has come to this. -/
structure Reported {α : Type} (policy : Policy) (m : Method) (backoff earlier : Nat)
    (calls : List (Call σ)) (ended : Option (Nat × Except RegistrationError α))
    (lines : List LogLine) : Prop where
  lines : ∃ alerts, lines = alerts ++ closingLines m (earlier + calls.length) ended
    ∧ List.Forall₂ (Reports policy m backoff) (failures m earlier calls) alerts
  succeeded : ∀ time result, ended = some (time, .ok result) →
    (failures m earlier calls).length + 1 = calls.length
  failed : ∀ time error, ended = some (time, .error error) →
    (failures m earlier calls).length = calls.length

namespace Reported

variable {α : Type} {policy : Policy} {backoff earlier time : Nat} {call : Call σ}
  {calls : List (Call σ)} {ended : Option (Nat × Except RegistrationError α)}
  {line : LogLine} {first rest : List LogLine} {f : Failure m}

/-- A call that is abandoned reports nothing. -/
theorem pending (unfailed : call.failure? m earlier = none) :
    Reported policy m backoff earlier [call] (none : Option (Nat × Except _ α)) [] := by
  refine ⟨⟨[], rfl, ?_⟩, nofun, nofun⟩
  simp [failures_single, unfailed]

theorem success (unfailed : call.failure? m earlier = none) (result : α) :
    Reported policy m backoff earlier [call] (some (time, .ok result))
      [.succeeded m (min (earlier + 1) maxAttempts)] := by
  refine ⟨⟨[], rfl, ?_⟩, ?_, nofun⟩
  · simp [failures_single, unfailed]
  · simp [failures_single, unfailed]

theorem failure (failed : call.failure? m earlier = some f)
    (reports : Reports policy m backoff f line)
    (unsuccessful : ∀ time result, ended ≠ some (time, .ok result)) :
    Reported policy m backoff earlier [call] ended [line] := by
  refine ⟨⟨[line], ?_, ?_⟩, ?_, ?_⟩
  · cases ended with
    | none => rfl
    | some came =>
      obtain ⟨time, result⟩ := came
      cases result with
      | ok result => exact absurd rfl (unsuccessful time result)
      | error error => rfl
  · simp [failures_single, failed, reports]
  · intro time result came
    exact absurd came (unsuccessful time result)
  · simp [failures_single, failed]

theorem map {β : Type} {lines : List LogLine} (f : α → β)
    (reported : Reported policy m backoff earlier calls ended lines) :
    Reported policy m backoff earlier calls
      (ended.map fun (time, result) => (time, result.map f)) lines := by
  cases ended with
  | none => exact ⟨reported.lines, nofun, nofun⟩
  | some came =>
    obtain ⟨time, result⟩ := came
    cases result with
    | ok result => exact ⟨reported.lines, fun _ _ _ => reported.succeeded time result rfl, nofun⟩
    | error error => exact ⟨reported.lines, nofun, fun _ _ _ => reported.failed time error rfl⟩

/-- A failed attempt in front of a handshake is one more failure to report. -/
theorem cons (failed : call.failure? m earlier = some f)
    (one : Reported policy m backoff earlier [call] (none : Option (Nat × Except _ α)) first)
    (others : Reported policy m backoff (earlier + 1) calls ended rest) :
    Reported policy m backoff earlier (call :: calls) ended (first ++ rest) := by
  -- the failure in front is one more on both sides, and nothing is logged between the two
  obtain ⟨alerts, rfl, reports⟩ := one.lines
  obtain ⟨more, rfl, moreReports⟩ := others.lines
  have counted : (failures m earlier (call :: calls)).length
      = (failures m (earlier + 1) calls).length + 1 := by
    simp [failures_cons, failed]
  have behind : earlier + (call :: calls).length = earlier + 1 + calls.length := by
    simp only [List.length_cons]
    omega
  refine ⟨⟨alerts ++ more, ?_, ?_⟩, ?_, ?_⟩
  · rw [behind, List.append_assoc]
    simp [closingLines]
  · rw [failures_single] at reports
    rw [failures_cons]
    exact List.rel_append reports moreReports
  · intro time result came
    rw [counted, others.succeeded time result came, List.length_cons]
  · intro time error came
    rw [counted, others.failed time error came, List.length_cons]

end Reported

namespace Driver

variable {attempt earlier : Nat}

theorem nextAttempt_eq (numbered : attempt = min earlier maxAttempts) :
    nextAttempt attempt = min (earlier + 1) maxAttempts := by
  rw [numbered, nextAttempt]
  generalize maxAttempts = most
  omega

variable [QuietTransport σ] (request : m.Request) (horizon : Horizon) (budget now : Nat)

theorem invoke_lines (t : σ) :
    (invoke t m request now horizon).journal.logLines
      = (Call.mk t now horizon (m.encode request)).reply?.toList.flatMap (replyLines m) := by
  rw [invoke_journal, Journal.logLines_append, QuietTransport.quiet, List.nil_append, Call.reply?,
    Call.ended, Call.exchange]
  cases (Transport.call t now horizon (m.encode request)).ended with
  | none => rfl
  | some replied => simp

/-- An attempt reports its own failure, and another one follows only if it has failed. -/
theorem attemptOnce_reported (d : Driver σ) (numbered : attempt = min earlier maxAttempts) :
    let first := attemptOnce m request horizon attempt now d
    let call := d.nextCall m request horizon now
    Reported d.policy m d.backoff earlier [call] first.progress.ended
        first.progress.journal.logLines
      ∧ (first.wake ≠ none → ∃ f, call.failure? m earlier = some f) := by
  intro first call
  have told : (invoke d.transport m request now horizon).journal.logLines
      = call.reply?.toList.flatMap (replyLines m) := invoke_lines ..
  cases ended : call.ended with
  | none =>
    have unanswered : call.reply? = none := by rw [Call.reply?, ended, Option.map_none]
    have unfailed : call.failure? m earlier = none := by simp [Call.failure?, unanswered]
    have waiting : (invoke d.transport m request now horizon).ended = none := by
      rw [invoke_ended]
      exact Option.map_eq_none_iff.mpr ended
    rw [unanswered] at told
    obtain ⟨came, last, journal⟩ := attemptOnce_pending attempt waiting
    have silent : first.progress.journal.logLines = [] := (congrArg _ journal).trans told
    rw [show first.progress.ended = none from came, silent]
    exact ⟨.pending unfailed, fun again => absurd last again⟩
  | some replied =>
    obtain ⟨time, reply⟩ := replied
    have replies : call.reply? = some reply := by rw [Call.reply?, ended, Option.map_some]
    have answered : (invoke d.transport m request now horizon).ended
        = some (time, m.judge reply) := by
      rw [invoke_ended, show (Call.mk ..).ended = some (time, reply) from ended]
      rfl
    rw [replies] at told
    have logged : first.progress.journal.logLines
        = replyLines m reply
          ++ outcomeLines m (nextAttempt attempt) d.backoff
            (d.policy.classify m (m.judge reply)) := by
      rw [show first.progress.journal = _ from attemptOnce_journal attempt answered]
      simp [told]
    have came : first.progress.ended = _ := attemptOnce_ended attempt answered
    rw [nextAttempt_eq numbered] at logged came
    rcases attempt_lines d.policy m (min (earlier + 1) maxAttempts) d.backoff reply with
      ⟨response, success, lines⟩ | ⟨fails, line, lines, reports⟩
    · have unfailed : call.failure? m earlier = none := by
        simp [Call.failure?, replies, fails_iff d.policy, success]
      rw [success] at came
      rw [logged, lines, came]
      refine ⟨.success unfailed _, fun again => ?_⟩
      -- a handshake that goes on has not come to anything yet
      obtain ⟨wake, again⟩ := Option.ne_none_iff_exists'.mp again
      exact nomatch (ended_of_wake again).symm.trans came
    · have failed : call.failure? m earlier
          = some ⟨min (earlier + 1) maxAttempts, m.judge reply⟩ := by
        simp [Call.failure?, replies, fails]
      rw [logged, lines]
      refine ⟨.failure failed reports ?_, fun _ => ⟨_, failed⟩⟩
      intro instant result
      rw [came]
      cases classified : d.policy.classify m (m.judge reply) with
      | success response => exact absurd classified ((fails_iff d.policy).mp fails response)
      | fatal error => simp
      | retryable reason => simp

theorem drive_reported (d : Driver σ) (numbered : attempt = min earlier maxAttempts) :
    let progress := drive m request horizon budget attempt now d
    Reported d.policy m d.backoff earlier (callsMade m request horizon budget attempt now d)
      progress.ended progress.journal.logLines := by
  induction budget generalizing attempt earlier now d with
  | zero => exact ⟨⟨[], rfl, .nil⟩, nofun, nofun⟩
  | succ budget inductionHypothesis =>
    -- the attempts that follow have one more behind them, and so have their numbers
    obtain ⟨first, failure⟩ := attemptOnce_reported request horizon now d numbered
    cases again : (attemptOnce m request horizon attempt now d).wake with
    | none =>
      rw [drive_last again, callsMade_last again]
      exact first
    | some wake =>
      obtain ⟨f, failed⟩ := failure (by simp [again])
      rw [ended_of_wake again] at first
      have rest := inductionHypothesis wake
        (attemptOnce m request horizon attempt now d).progress.driver (nextAttempt_eq numbered)
      rw [attemptOnce_policy, attemptOnce_backoff] at rest
      rw [drive_again again, callsMade_again again]
      simp only [Progress.after, Journal.logLines_append]
      exact first.cons failed rest

theorem perform_reported (d : Driver σ) {o : Operation} {request : o.method.Request}
    (made : o.request? = .ok request) (horizon : Horizon) (budget now : Nat) :
    let run := d.recorded.perform o horizon budget now
    ∃ lines, run.journal.logLines = o.line request :: lines
      ∧ Reported d.policy o.method d.backoff 0 run.driver.transport.calls run.ended lines := by
  intro run
  have plain : run.unrecorded = d.perform o horizon budget now :=
    d.recorded.perform_unrecorded horizon budget now o
  have ended : run.ended = (d.perform o horizon budget now).ended := congrArg Progress.ended plain
  have journal : run.journal = (d.perform o horizon budget now).journal :=
    congrArg Progress.journal plain
  have reported := drive_reported request horizon budget now { d with state := .initial }
    (Nat.zero_min maxAttempts).symm
  rw [journal, ended, perform_calls horizon budget now d made,
    perform_of_ok horizon budget now d made]
  refine ⟨_, ?_, reported.map o.result⟩
  simp [Progress.map, Progress.after]

end Driver

end Handshakes

/-! ## Lines of an operation -/

theorem Reports.level_ne_info {policy : Policy} {m : Method} {backoff : Nat} {f : Failure m}
    {line : LogLine} (reports : Reports policy m backoff f line) : line.level ≠ .info := by
  intro info
  have error := reports.error
  have warn := reports.warn
  rw [info] at error warn
  simp only [reduceCtorEq, false_iff, not_not] at error warn
  exact error warn

theorem levels_of_reports {policy : Policy} {m : Method} {backoff : Nat} {fs : List (Failure m)}
    {alerts : List LogLine} (reports : List.Forall₂ (Reports policy m backoff) fs alerts) :
    ∀ line ∈ alerts, line.level ≠ .info := by
  induction reports with
  | nil => simp
  | cons first _ inductionHypothesis =>
    rw [List.forall_mem_cons]
    exact ⟨first.level_ne_info, inductionHypothesis⟩

theorem level_of_mem_closingLines {α : Type} {m : Method} {attempts : Nat}
    {ended : Option (Nat × Except RegistrationError α)} {line : LogLine}
    (member : line ∈ closingLines m attempts ended) : line.level = .info := by
  unfold closingLines at member
  split at member
  · rw [List.mem_singleton.mp member]
    rfl
  · cases member
  · cases member

namespace Operation

theorem level_line (o : Operation) (request : o.method.Request) :
    (o.line request).level = .info := by
  cases o <;> rfl

/-- Only a name that is too long makes no request. -/
theorem exists_request {o : Operation}
    (named : ∀ deviceId deviceName, o = .register deviceId deviceName →
      (bytes deviceName).length ≤ maxNameSize) :
    ∃ request, o.request? = .ok request := by
  cases o with
  | register deviceId deviceName => exact ⟨_, dif_pos (named deviceId deviceName rfl)⟩
  | authenticate credentials => exact ⟨_, rfl⟩

end Operation

namespace Driver

variable {σ : Type} [Transport σ]

/-- Every failed attempt of an operation is reported once.  Its warnings and errors are, in order,
the reports of its failed attempts, at the level that the policy and the kind of the failure give
them; a timeout is reported where the calls are made, and no policy makes it final.  Else there is
the first line, and the last one of a success.  So of the calls of a success, all but the last one
are reported, and all calls of an operation that fails. -/
theorem failures_reported_once [QuietTransport σ] (d : Driver σ) (o : Operation)
    (horizon : Horizon) (budget now : Nat)
    (named : ∀ deviceId deviceName, o = .register deviceId deviceName →
      (bytes deviceName).length ≤ maxNameSize) :
    ∃ request, o.request? = .ok request ∧
      let run := d.recorded.perform o horizon budget now
      let calls := run.driver.transport.calls
      let lines := run.journal.logLines
      let alerts := lines.filter (·.level ≠ .info)
      let closing := closingLines o.method calls.length run.ended
      List.Forall₂ (Reports d.policy o.method d.backoff) (failures o.method 0 calls) alerts
        ∧ lines = o.line request :: alerts ++ closing
        ∧ lines.filter (·.level = .info) = o.line request :: closing
        ∧ (∀ time result, run.ended = some (time, .ok result) → alerts.length + 1 = calls.length)
        ∧ (∀ time error, run.ended = some (time, .error error) → alerts.length = calls.length)
        ∧ run.unrecorded = d.perform o horizon budget now
        ∧ ∀ (policy : Policy) (m : Method) (error : RegistrationError),
            policy.classify m (.error .timeout) ≠ .fatal error := by
  obtain ⟨request, made⟩ := Operation.exists_request named
  refine ⟨request, made, ?_⟩
  intro run calls lines alerts closing
  obtain ⟨others, logged, reported⟩ := d.perform_reported made horizon budget now
  obtain ⟨reports, split, each⟩ := reported.lines
  rw [Nat.zero_add] at split
  have told : lines = o.line request :: reports ++ closing := by
    rw [show lines = _ from logged, split]
    rfl
  have opening := o.level_line request
  have raised := levels_of_reports each
  have closes : ∀ line ∈ closing, line.level = .info := fun line => level_of_mem_closingLines
  have kept : alerts = reports := by
    have all : reports.filter (·.level ≠ .info) = reports :=
      List.filter_eq_self.mpr (by simpa using raised)
    have none : closing.filter (·.level ≠ .info) = [] :=
      List.filter_eq_nil_iff.mpr (by simpa using closes)
    rw [show alerts = lines.filter _ from rfl, told, List.filter_append, none, List.filter_cons,
      all]
    simp [opening]
  have infos : lines.filter (·.level = .info) = o.line request :: closing := by
    have all : closing.filter (·.level = .info) = closing :=
      List.filter_eq_self.mpr (by simpa using closes)
    have none : reports.filter (·.level = .info) = [] :=
      List.filter_eq_nil_iff.mpr (by simpa using raised)
    rw [told, List.filter_append, all, List.filter_cons, none]
    simp [opening]
  rw [kept]
  refine ⟨each, told, infos, ?_, ?_, d.recorded.perform_unrecorded horizon budget now o, ?_⟩
  · intro time result came
    rw [← each.length_eq]
    exact reported.succeeded time result came
  · intro time error came
    rw [← each.length_eq]
    exact reported.failed time error came
  · intro policy m error
    simp [classify_timeout]

/-- A driver that meets a timeout, a lost connection, a verdict that may change, and a success. -/
def chequered : Driver ReplyScript :=
  { transport := ⟨[⟨5, .error .timeout⟩, ⟨3, .error .connectionClosed⟩, ⟨3, .ok [0x11, 1, 0xFF]⟩,
      ⟨1, .ok [0x11, 1, 0]⟩]⟩
    backoff := 10 }

theorem failures_reported_once_chequered :
    let run := chequered.recorded.perform (.register 7 "lamp") none 9 0
    let alerts := run.journal.logLines.filter (·.level ≠ .info)
    (bytes "lamp").length ≤ maxNameSize
      ∧ run.ended = some (42, .ok ⟨4, none⟩)
      ∧ alerts.length + 1 = run.driver.transport.calls.length
      ∧ run.driver.transport.calls.length = 4
      ∧ alerts.map LogLine.level = [.warn, .error, .warn]
      ∧ alerts.map LogLine.source
        = [LogLine.callSource, LogLine.handshakeSource, LogLine.handshakeSource] := by
  intro run alerts
  have short : (bytes "lamp").length ≤ maxNameSize := by decide
  have named : ∀ deviceId deviceName, Operation.register 7 "lamp" = .register deviceId deviceName →
      (bytes deviceName).length ≤ maxNameSize := by
    intro deviceId deviceName same
    cases same
    exact short
  have ended : run.ended = some (42, .ok ⟨4, none⟩) := rfl
  obtain ⟨request, -, -, -, -, succeeded, -⟩ :=
    failures_reported_once chequered (.register 7 "lamp") none 9 0 named
  exact ⟨short, ended, succeeded _ _ ended, rfl, rfl, rfl⟩

end Driver

end ThingLink
