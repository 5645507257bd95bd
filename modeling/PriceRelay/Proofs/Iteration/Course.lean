import PriceRelay.Adapter.Deployed
import PriceRelay.Iteration.Relayer
import PriceRelay.Proofs.Activity.Services
import PriceRelay.Proofs.Chain.Inclusion
import PriceRelay.Proofs.Decision.PastChecks
import PriceRelay.Proofs.Delivery.Outcome
/-!
The course of an iteration that comes to deliver an update: it fetches, decides and builds a call,
and then does what the delivery asks for.
-/

namespace PriceRelay

namespace Activity

variable {I : Interface} {α β ε : Type} {before after : List (Exchange I)} {early late : Millis}

theorem Ends.bind {first : Activity I α} {next : α → Activity I β} {middle : α} {result : β}
    (ends : first.Ends before early middle) (onward : (next middle).Ends after late result) :
    (first.bind next).Ends (before ++ after) (early + late) result :=
  ends_bind_iff.mpr ⟨before, after, early, late, middle, rfl, rfl, ends, onward⟩

theorem Ends.map {first : Activity I α} {value : α} (ends : first.Ends before early value)
    (make : α → β) : (first.bind fun value => .done (make value)).Ends before early (make value) :=
  ends_bind_iff.mpr ⟨before, [], early, 0, value, by simp, rfl, ends, .done _⟩

theorem Ends.andThen {first : Activity I (Except ε α)} {next : α → Activity I (Except ε β)}
    {middle : α} {result : Except ε β} (ends : first.Ends before early (.ok middle))
    (onward : (next middle).Ends after late result) :
    (Activity.andThen first next).Ends (before ++ after) (early + late) result :=
  Ends.bind ends onward

end Activity

/-- What is decided with an answer about past packages. -/
def Fetched.decisionWith (fetched : Fetched) (engine : Engine) (answer : Option PackageSet) :
    Decision :=
  (engine.evaluate (fetched.contextWith answer)).1

theorem Fetched.askPast_ends {request : Request} {answer : Option PackageSet}
    {trace : List (Exchange world)} {elapsed : Millis}
    (ends : (askPast request).Ends trace elapsed answer) :
    ∃ reply : Timed PackageSet, trace = [⟨.packages true request, reply⟩] ∧
      answer = reply.answer.toOption := by
  obtain ⟨asking, rest, _, _, result, rfl, -, asked, onward⟩ := Activity.ends_bind_iff.mp ends
  obtain ⟨reply, waiting, rfl, settled⟩ := Activity.ends_ask_iff.mp asked
  obtain ⟨rfl, rfl⟩ := Task.ends_settle settled
  cases given : reply.answer with
  | ok packages =>
    rw [given] at onward
    obtain ⟨rfl, -, rfl⟩ := Activity.ends_done_iff.mp onward
    exact ⟨reply, rfl, by rw [given, Except.toOption]⟩
  | error failure =>
    rw [given] at onward
    obtain ⟨rfl, -, rfl⟩ := Activity.ends_done_iff.mp onward
    exact ⟨reply, rfl, by rw [given, Except.toOption]⟩

/-- Past packages are asked for once, where there is a source and a trigger consults them, and the
decision is made with the answer. Otherwise nothing is asked. -/
theorem Fetched.decide_course {fetched : Fetched} {engine : Engine} {decision : Decision}
    {trace : List (Exchange world)} {elapsed : Millis}
    (ends : (fetched.decide engine).Ends trace elapsed decision) :
    (∃ request reply, fetched.pastRequest? = some request ∧
      (∃ trigger ∈ engine.triggers.triggers,
        engine.Consults (fetched.contextWith none) trigger) ∧
      trace = [⟨.packages true request, reply⟩] ∧
      decision = fetched.decisionWith engine reply.answer.toOption) ∨
    (∀ request, fetched.pastRequest? = some request → ∀ trigger ∈ engine.triggers.triggers,
      ¬engine.Consults (fetched.contextWith none) trigger) ∧
      trace = [] ∧ decision = fetched.decisionWith engine none := by
  unfold decide at ends
  cases source : fetched.pastRequest? with
  | none =>
    simp only [source] at ends
    obtain ⟨rfl, -, same⟩ := Activity.ends_done_iff.mp ends
    exact .inr ⟨nofun, rfl, same⟩
  | some request =>
    simp only [source] at ends
    have waits : (fetched.contextWith none).past = .ofAnswer none := by simp [contextWith, source]
    rcases engine.evaluate_requests waits with ⟨consults, once⟩ | ⟨spared, never⟩
    · rw [if_pos (by simp [needsPast, once])] at ends
      obtain ⟨answer, asked, rfl⟩ := Activity.ends_bind_done ends
      obtain ⟨reply, rfl, rfl⟩ := askPast_ends asked
      exact .inl ⟨request, reply, rfl, consults, rfl, rfl⟩
    · rw [if_neg (by simp [needsPast, never])] at ends
      obtain ⟨rfl, -, same⟩ := Activity.ends_done_iff.mp ends
      refine .inr ⟨?_, rfl, same⟩
      rintro _ ⟨⟩
      exact spared

theorem Fetched.decide_ends {fetched : Fetched} {engine : Engine} {decision : Decision}
    {trace : List (Exchange world)} {elapsed : Millis}
    (ends : (fetched.decide engine).Ends trace elapsed decision) :
    ∃ answer, decision = fetched.decisionWith engine answer := by
  rcases decide_course ends with ⟨_, _, _, _, _, same⟩ | ⟨_, _, same⟩
  · exact ⟨_, same⟩
  · exact ⟨_, same⟩

/-- Where no past packages may be needed, a decision asks nothing. -/
theorem Fetched.decide_atOnce {fetched : Fetched} (latest : fetched.pastRequest? = none)
    (engine : Engine) : (fetched.decide engine).Ends [] 0 (fetched.decisionWith engine none) := by
  unfold decide
  rw [latest]
  exact .done _

theorem Fetcher.fetch_atOnce {fetcher : Fetcher} {block threshold : Nat} {contract : ContractState}
    (numbered : fetcher.rpc.request .blockNumber = .done (.ok block))
    (read : fetcher.adapter.perform (.readState fetcher.feeds block) = .done (.ok contract))
    (asked : fetcher.adapter.perform (.threshold block) = .done (.ok threshold))
    (packages : PackageSet) (now : Millis) :
    let request := fetcher.request fetcher.feeds threshold
    fetcher.fetch.Ends [⟨.packages false request, ⟨0, .ok packages⟩⟩, ⟨.clock, now⟩] 0
      (.ok { block, now, threshold, contract, packages
             pastRequest? := fetcher.pastRequest? request now }) := by
  have opened : fetcher.fetch = fetcher.fetchAt block := by
    unfold fetch
    rw [numbered]
    rfl
  rw [opened, fetchAt, read, asked]
  exact .ask _ (.ask _ (.done _))

namespace Relayer

def toDeliver (relayer : Relayer) (fetched : Fetched) (decision : Decision) (call : UpdateCall) :
    DeliveryRequest :=
  { call
    packages := fetched.packages
    timestamp := fetched.now
    block := fetched.block
    canOmit := decision.isOptional
    regenerate? := some fun _ => relayer.rebuild
      (relayer.fetcher.request (relayer.feedsToWrite decision) fetched.threshold) }

variable {relayer : Relayer}

theorem deliveryRequest_ok_iff {fetched : Fetched} {decision : Decision}
    {request : DeliveryRequest} {trace : List (Exchange world)} {elapsed : Millis} :
    (relayer.deliveryRequest fetched decision).Ends trace elapsed (.ok request) ↔
      ∃ call, (relayer.adapter.perform (.build (relayer.feedsToWrite decision) fetched.packages
          fetched.now)).Ends trace elapsed (.ok call) ∧
        relayer.toDeliver fetched decision call = request := by
  constructor
  · intro ends
    obtain ⟨before, after, _, _, call, rfl, rfl, built, onward⟩ := Activity.ends_andThen_ok ends
    obtain ⟨rfl, rfl, same⟩ := Activity.ends_done_iff.mp onward
    cases same
    rw [List.append_nil]
    exact ⟨call, built, rfl⟩
  · rintro ⟨call, built, rfl⟩
    exact Activity.ends_bind_iff.mpr
      ⟨trace, [], elapsed, 0, .ok call, by simp, rfl, built, .done _⟩

/-- What is done about a decision. -/
inductive CarriesOut (relayer : Relayer) (fetched : Fetched) (decision : Decision) :
    List (Exchange world) → Except Failure IterationOutcome → Prop where
  /-- There is nothing to write. -/
  | idle (nothing : decision.shouldUpdate = false) :
      CarriesOut relayer fetched decision [] (.ok .noUpdate)
  /-- There is no call that writes it. -/
  | unbuilt {trace : List (Exchange world)} {spent : Millis} {failure : Failure}
      (updates : decision.shouldUpdate = true)
      (fails : (relayer.deliveryRequest fetched decision).Ends trace spent (.error failure)) :
      CarriesOut relayer fetched decision trace (.error failure)
  | delivered {building delivering : List (Exchange world)} {early late : Millis}
      {call : UpdateCall} {outcome : DeliveryOutcome} (updates : decision.shouldUpdate = true)
      (builds : (relayer.adapter.perform (.build (relayer.feedsToWrite decision) fetched.packages
        fetched.now)).Ends building early (.ok call))
      (delivers : (relayer.delivery.deliver (relayer.toDeliver fetched decision call)).Ends
        delivering late outcome) :
      CarriesOut relayer fetched decision (building ++ delivering) (.ok (.updated outcome))

theorem carryOut_ends {fetched : Fetched} {decision : Decision} {trace : List (Exchange world)}
    {elapsed : Millis} {result : Except Failure IterationOutcome}
    (ends : (relayer.carryOut fetched decision).Ends trace elapsed result) :
    relayer.CarriesOut fetched decision trace result := by
  unfold carryOut at ends
  split at ends
  · rename_i updates
    rcases Activity.ends_andThen ends with ⟨failure, fails, rfl⟩ | parts
    · exact .unbuilt updates fails
    · obtain ⟨building, delivering, _, _, request, rfl, -, prepares, onward⟩ := parts
      obtain ⟨call, builds, rfl⟩ := deliveryRequest_ok_iff.mp prepares
      obtain ⟨outcome, delivers, rfl⟩ := Activity.ends_bind_done onward
      exact .delivered updates builds delivers
  · rename_i idle
    obtain ⟨rfl, -, rfl⟩ := Activity.ends_done_iff.mp ends
    exact .idle (Bool.eq_false_iff.mpr idle)

section

variable {site : Adapter.Site} (deployed : relayer.adapter = Adapter.atSite site)

include deployed

theorem feedsToWrite_atSite (decision : Decision) :
    relayer.feedsToWrite decision = match site.kind.scope with
      | .perFeed => decision.feeds
      | .allFeeds => relayer.fetcher.feeds := by
  rw [feedsToWrite, deployed]
  rfl

/-- Over a deployed contract, building a call asks nothing. -/
theorem build_ends_iff {feeds : List FeedId} {packages : PackageSet} {now : Millis}
    {trace : List (Exchange world)} {elapsed : Millis} {result : Except Failure UpdateCall} :
    (relayer.adapter.perform (.build feeds packages now)).Ends trace elapsed result ↔
      trace = [] ∧ elapsed = 0 ∧ result = site.build feeds packages now := by
  rw [deployed]
  exact Activity.ends_done_iff

end

/-- What an iteration that delivers an update does, part by part. -/
structure UpdateCourse (relayer : Relayer) where
  fetched : Fetched
  /-- The past packages that the decision was made with, if any. -/
  answer : Option PackageSet
  call : UpdateCall
  calls : Delivery.Calls
  outcome : DeliveryOutcome
  fetching : List (Exchange world)
  deciding : List (Exchange world)
  building : List (Exchange world)
  delivering : List (Exchange world)
  decision : Decision
  fetches : ∃ spent, relayer.fetcher.fetch.Ends fetching spent (.ok fetched)
  decides : ∃ spent, (fetched.decide relayer.engine).Ends deciding spent decision
  decided : decision = fetched.decisionWith relayer.engine answer
  updates : decision.shouldUpdate = true
  builds : ∃ spent, (relayer.adapter.perform (.build (relayer.feedsToWrite decision)
    fetched.packages fetched.now)).Ends building spent (.ok call)
  delivers : ∃ spent, (relayer.delivery.procedure
    (relayer.toDeliver fetched decision call)).Ends calls spent outcome
  served : Activity.Serves (relayer.delivery.serve (relayer.toDeliver fetched decision call)) calls
    delivering

namespace UpdateCourse

def context (course : relayer.UpdateCourse) : IterationContext :=
  course.fetched.contextWith course.answer

def trace (course : relayer.UpdateCourse) : List (Exchange world) :=
  course.fetching ++ (course.deciding ++ (course.building ++ course.delivering))

end UpdateCourse

variable {trace : List (Exchange world)} {elapsed : Millis}

theorem work_updated {outcome : DeliveryOutcome}
    (ends : relayer.work.Ends trace elapsed (.ok (.updated outcome))) :
    ∃ course : relayer.UpdateCourse, course.trace = trace ∧ course.outcome = outcome := by
  obtain ⟨fetching, rest, _, _, fetched, rfl, rfl, fetches, onward⟩ :=
    Activity.ends_andThen_ok ends
  obtain ⟨deciding, rest, _, _, decision, rfl, rfl, decides, onward⟩ :=
    Activity.ends_bind_iff.mp onward
  obtain ⟨answer, rfl⟩ := Fetched.decide_ends decides
  cases carryOut_ends onward with
  | @delivered building delivering _ _ call _ updates builds delivers =>
    obtain ⟨calls, spent, own, served⟩ := Activity.ends_carryOut delivers
    let course : relayer.UpdateCourse :=
      { fetched, answer, call, calls, outcome, fetching, deciding, building, delivering
        decision := fetched.decisionWith relayer.engine answer
        fetches := ⟨_, fetches⟩
        decides := ⟨_, decides⟩
        decided := rfl
        updates
        builds := ⟨_, builds⟩
        delivers := ⟨spent, own⟩
        served }
    exact ⟨course, rfl, rfl⟩

/-- An iteration that delivers an update takes such a course, after looking at the clock if it may
be paused. -/
theorem iterate_updated {outcome : DeliveryOutcome}
    (ends : relayer.iterate.Ends trace elapsed (.ok (.updated outcome))) :
    ∃ (opening : List (Exchange world)) (course : relayer.UpdateCourse),
      trace = opening ++ course.trace ∧ course.outcome = outcome := by
  unfold iterate at ends
  split at ends
  · obtain ⟨course, same, outcome⟩ := work_updated ends
    exact ⟨[], course, same.symm, outcome⟩
  · obtain ⟨now, rest, rfl, onward⟩ := Activity.ends_question_bind_iff.mp ends
    split at onward
    · obtain ⟨reply, rest, rfl, ended⟩ := Activity.ends_question_bind_iff.mp onward
      cases (Activity.ends_done_iff.mp ended).2.2
    · obtain ⟨course, same, outcome⟩ := work_updated onward
      exact ⟨[⟨.clock, now⟩], course, by rw [same]; rfl, outcome⟩

theorem UpdateCourse.ends (course : relayer.UpdateCourse) :
    ∃ elapsed, relayer.work.Ends course.trace elapsed (.ok (.updated course.outcome)) := by
  obtain ⟨_, fetches⟩ := course.fetches
  obtain ⟨_, decides⟩ := course.decides
  obtain ⟨early, builds⟩ := course.builds
  obtain ⟨_, delivers⟩ := course.delivers
  obtain ⟨late, delivered⟩ := delivers.carryOut course.served
  have updated := delivered.map fun outcome =>
    (.ok (.updated outcome) : Except Failure IterationOutcome)
  have carried : (relayer.carryOut course.fetched course.decision).Ends
      (course.building ++ course.delivering) (early + late) (.ok (.updated course.outcome)) := by
    have prepares := deliveryRequest_ok_iff.mpr ⟨course.call, builds, rfl⟩
    unfold carryOut
    rw [if_pos course.updates]
    exact prepares.andThen updated
  exact ⟨_, fetches.andThen (decides.bind carried)⟩

end Relayer

end PriceRelay
