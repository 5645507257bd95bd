import PriceRelay.Proofs.Activity.Alone
import PriceRelay.Proofs.Auction.Acceptance
/-!
Who wins an auction: of the legs that were offered the first to be won, if it is won in time; and of
the transactions that came back for a leg the first to pass all checks.
-/

namespace PriceRelay.AuctionLane

open Activity

/-- A leg that was offered ends so. What it wins, it wins in its own name. -/
structure LegEndsAs (lane : AuctionLane) (packages : PackageSet) (block : Nat)
    (offer : FeedId × UpdateCall) (completion : Completion (Except AuctionFailure AuctionWin)) :
    Prop where
  course : (lane.runLeg packages block offer.1 offer.2).EndsAs completion
  named : ∀ win, completion.result = .ok win → win.leg = offer.1

/-- The legs that were offered decide on the result of an auction, each for itself and any of them
within the limit. -/
def LegsDecide (lane : AuctionLane) (packages : PackageSet) (block : Nat)
    (offered : List (FeedId × UpdateCall)) (racing : List (Exchange world)) (spent : Millis)
    (result : Except AuctionFailure AuctionWin) : Prop :=
  Decided (· ≤ lane.settings.total) offered
    (fun (leg, call) => reporting legFailed (lane.runLeg packages block leg call))
    (lane.LegEndsAs packages block) racing spent (fun win => result = .ok win)
    (result = .error .noVerifiedLeg) (result = .error (.timedOut lane.settings.total))

/-- The blobs that came back decide on the result of a leg, however long they take. -/
def BlobsDecide (lane : AuctionLane) (packages : PackageSet) (block : Nat) (leg : FeedId)
    (feeds : List FeedId) (blobs : List Bytes) (racing : List (Exchange world)) (spent : Millis)
    (result : Except AuctionFailure AuctionWin) : Prop :=
  Decided (fun _ => True) blobs
    (fun blob => reporting rejected (lane.verify feeds packages block blob))
    (fun blob => (lane.verify feeds packages block blob).EndsAs) racing spent
    (fun hash => result = .ok ⟨leg, hash⟩) (∃ failure, result = .error failure) False

section

variable {lane : AuctionLane} {call : UpdateCall} {packages : PackageSet} {timestamp : Millis}
  {block : Nat} {leg : FeedId} {trace : List (Exchange world)} {elapsed : Millis}

/-- A report takes no time and changes no result. -/
theorem reporting_endsAs {α : Type} {event : AuctionFailure → Event} {trial : Trial α}
    {completion : Completion (Except AuctionFailure α)}
    (endsAs : (reporting event trial).EndsAs completion) : trial.EndsAs completion := by
  obtain ⟨course, ends⟩ := endsAs
  obtain ⟨before, after, early, late, outcome, rfl, time, tried, last⟩ := ends_bind_iff.mp ends
  cases outcome with
  | ok value =>
    obtain ⟨rfl, rfl, same⟩ := ends_done_iff.mp last
    rw [EndsAs, time, same]
    exact ⟨before, tried⟩
  | error failure =>
    obtain ⟨noted, rest, rfl, ended⟩ := ends_question_bind_iff.mp last
    obtain ⟨rfl, rfl, same⟩ := ends_done_iff.mp ended
    rw [EndsAs, time, same]
    exact ⟨before, tried⟩

theorem runLeg_endsAs {offer : FeedId × UpdateCall}
    {completion : Completion (Except AuctionFailure AuctionWin)}
    (endsAs : (reporting legFailed (lane.runLeg packages block offer.1 offer.2)).EndsAs completion) :
    lane.LegEndsAs packages block offer completion := by
  have course := reporting_endsAs endsAs
  refine ⟨course, ?_⟩
  intro win won
  obtain ⟨trace, ends⟩ := course
  rw [won] at ends
  exact (runLeg_ok ends.observed).1

def collect (lane : AuctionLane) (leg : FeedId) (call : UpdateCall) : Trial (List Bytes) :=
  andThen (trial (Task.sign (AuctionRequest.message lane.chain lane.adapter.contract call.data)))
    fun signature => lane.blobs leg (lane.request call.data signature)

theorem runLeg_eq (lane : AuctionLane) (packages : PackageSet) (block : Nat) (leg : FeedId)
    (call : UpdateCall) :
    lane.runLeg packages block leg call =
      andThen (lane.collect leg call) fun blobs =>
        andThen (lane.firstVerified leg call.feeds packages block blobs) fun hash =>
          (Task.note verified).bind fun _ => .done (.ok ⟨leg, hash⟩) := by
  simp only [runLeg, collect, andThen, bind_assoc]
  congr 1
  funext signed
  cases signed <;> rfl

theorem trial_ends {α : Type} {attempt : Attempt α} {outcome : Except AuctionFailure α}
    (ends : (trial attempt).Ends trace elapsed outcome) :
    (∃ failure, attempt.Ends trace elapsed (.error failure) ∧ outcome = .error (.other failure)) ∨
      ∃ value, attempt.Ends trace elapsed (.ok value) ∧ outcome = .ok value := by
  obtain ⟨original, own, rfl⟩ := ends_mapError_iff.mp ends
  cases original with
  | error failure => exact .inl ⟨failure, own, rfl⟩
  | ok value => exact .inr ⟨value, own, rfl⟩

/-- Legs that were offered race within the limit. -/
theorem run_decided {result : Except AuctionFailure AuctionWin}
    (ends : (lane.run call packages timestamp block).Ends trace elapsed result) :
    (∃ failure, (lane.legs call packages timestamp).Ends trace elapsed (.error failure) ∧
      result = .error (.other failure)) ∨
    ∃ offered building racing start spent, trace = building ++ racing ∧ elapsed = start + spent ∧
      (lane.legs call packages timestamp).Ends building start (.ok offered) ∧
      lane.LegsDecide packages block offered racing spent result := by
  rcases ends_andThen ends with ⟨reason, building, rfl⟩ |
    ⟨building, rest, start, late, offered, rfl, rfl, built, onward⟩
  · rcases trial_ends building with ⟨failure, own, same⟩ | ⟨_, _, same⟩
    · cases same
      exact .inl ⟨failure, own, rfl⟩
    · cases same
  · rcases trial_ends built with ⟨_, _, same⟩ | ⟨legs, own, same⟩
    · cases same
    · cases same
      obtain ⟨racing, closing, spent, rest, outcome?, rfl, rfl, raced, ended⟩ :=
        ends_bind_iff.mp onward
      have decided : closing = [] ∧ rest = 0 ∧
          (∀ win, result = .ok win ↔ outcome? = some (.ok win)) ∧
          (result = .error .noVerifiedLeg ↔ ∃ reason, outcome? = some (.error reason)) ∧
          (result = .error (.timedOut lane.settings.total) ↔ outcome? = none) := by
        match outcome? with
        | none =>
          obtain ⟨rfl, rfl, rfl⟩ := ends_done_iff.mp ended
          simp
        | some (.error failure) =>
          obtain ⟨rfl, rfl, rfl⟩ := ends_done_iff.mp ended
          simp
        | some (.ok win) =>
          obtain ⟨rfl, rfl, rfl⟩ := ends_done_iff.mp ended
          simp
      obtain ⟨rfl, rfl, won, lost, timedOut⟩ := decided
      rw [List.append_nil]
      exact .inr ⟨offered, building, racing, start, spent, rfl, rfl, own,
        race_within_decided (fun _ _ => runLeg_endsAs) raced won lost timedOut⟩

/-- Transactions that came back for a leg race without a limit of their own. -/
theorem runLeg_decided {result : Except AuctionFailure AuctionWin}
    (ends : (lane.runLeg packages block leg call).Ends trace elapsed result) :
    (∃ failure, (lane.collect leg call).Ends trace elapsed (.error failure) ∧
      result = .error failure) ∨
    ∃ blobs asking racing closing start spent,
      trace = asking ++ (racing ++ closing) ∧ elapsed = start + spent ∧
      (lane.collect leg call).Ends asking start (.ok blobs) ∧
      lane.BlobsDecide packages block leg call.feeds blobs racing spent result := by
  rw [runLeg_eq] at ends
  rcases ends_andThen ends with ⟨failure, asked, rfl⟩ |
    ⟨asking, rest, start, late, blobs, rfl, rfl, asked, onward⟩
  · exact .inl ⟨failure, asked, rfl⟩
  · have decided : ∃ racing closing outcome, rest = racing ++ closing ∧
        (lane.firstVerified leg call.feeds packages block blobs).Ends racing late outcome ∧
        (∀ hash, result = .ok ⟨leg, hash⟩ ↔ outcome = .ok hash) ∧
        ((∃ failure, result = .error failure) ↔ ∃ reason, outcome = .error reason) := by
      rcases ends_andThen onward with ⟨reason, raced, rfl⟩ |
        ⟨racing, closing, spent, rest, hash, rfl, rfl, raced, noted⟩
      · exact ⟨rest, [], _, (List.append_nil rest).symm, raced, by simp, by simp⟩
      · obtain ⟨reply, rest', rfl, ended⟩ := ends_question_bind_iff.mp noted
        obtain ⟨rfl, rfl, rfl⟩ := ends_done_iff.mp ended
        exact ⟨racing, _, _, rfl, raced, by simp, by simp⟩
    obtain ⟨racing, closing, outcome, rfl, raced, won, lost⟩ := decided
    exact .inr ⟨blobs, asking, racing, closing, start, late, rfl, rfl, asked,
      race_decided (fun _ _ => reporting_endsAs) raced (fun _ _ => trivial) won lost id⟩

end

/-- Of the legs that were offered the first to be won wins the auction, if it is won in time and
whatever becomes of the others. The auction is lost once all legs are, and times out where none was
won and some go on. In the same way the first transaction that is verified wins its leg. -/
theorem run_first_win (lane : AuctionLane) (packages : PackageSet) (block : Nat) :
    (∀ call timestamp trace elapsed result,
      (lane.run call packages timestamp block).Ends trace elapsed result →
      (∃ failure, (lane.legs call packages timestamp).Ends trace elapsed (.error failure) ∧
        result = .error (.other failure)) ∨
      ∃ offered building racing start spent, trace = building ++ racing ∧ elapsed = start + spent ∧
        (lane.legs call packages timestamp).Ends building start (.ok offered) ∧
        lane.LegsDecide packages block offered racing spent result) ∧
    (∀ leg call trace elapsed result,
      (lane.runLeg packages block leg call).Ends trace elapsed result →
      (∃ failure, (lane.collect leg call).Ends trace elapsed (.error failure) ∧
        result = .error failure) ∨
      ∃ blobs asking racing closing start spent,
        trace = asking ++ (racing ++ closing) ∧ elapsed = start + spent ∧
        (lane.collect leg call).Ends asking start (.ok blobs) ∧
        lane.BlobsDecide packages block leg call.feeds blobs racing spent result) := by
  constructor
  · intro call timestamp trace elapsed result ends
    exact run_decided ends
  · intro leg call trace elapsed result ends
    exact runLeg_decided ends

/-- A lane that offers one leg per feed. Its node is slower to refuse what pays enough. -/
def racingLane (total : Millis) : AuctionLane :=
  { adapter :=
      { kind := .multiFeed
        contract := sampleContract
        perform := fun
          | .build feeds _ _ => .done (.ok { sampleCall with feeds })
          | call => (sampleLane 5).adapter.perform call }
    rpc := ⟨fun
      | .send raw => Task.after (if raw = sampleBlob then 7 else 3) (.done (.error .transport))
      | call => (sampleLane 5).rpc.request call⟩
    chain := 1
    settings := ⟨total, 1000, 1000, 10, true, false⟩ }

/-- An auction with no transaction for two of the feeds, with two after 20 ms for one of them, and
with one after 500 ms for any other. -/
def racingAnswers : (question : Ask) → question.Reply
  | .bids leg _ =>
    if leg = "ADA" then ⟨2, .ok []⟩
    else if leg = "LTC" then ⟨4, .error .transport⟩
    else if leg = "BTC" then ⟨20, .ok [blobOffering 4, sampleBlob]⟩
    else ⟨500, .ok [sampleBlob]⟩
  | question => (sampleWorld.answer question ()).1

def racingLegs (feeds : List FeedId) : List (FeedId × UpdateCall) :=
  feeds.map fun feed => (feed, { sampleCall with feeds := [feed] })

theorem racingLane_legs (total : Millis) (feeds : List FeedId) :
    (racingLane total).legs { sampleCall with feeds } samplePackages 3000 =
      .done (.ok (racingLegs feeds)) := by
  change (racingLane total).feedLegs samplePackages 3000 feeds = _
  induction feeds with
  | nil => rfl
  | cons feed rest ih =>
    change andThen ((racingLane total).feedLegs samplePackages 3000 rest) _ = _
    rw [ih]
    rfl

/-- The auction for some feeds has a result, with legs that end so when each is alone. -/
def Auctioned (total : Millis) (feeds : List FeedId) (endings : List (Millis × Bool))
    (result : Except AuctionFailure AuctionWin) : Prop :=
  ∃ trace elapsed completions,
    ((racingLane total).run { sampleCall with feeds } samplePackages 3000 1).Ends trace elapsed
      result ∧
    List.Forall₂ ((racingLane total).LegEndsAs samplePackages 1) (racingLegs feeds) completions ∧
    completions.map Completion.ending = endings

/-- One leg fails after 2 ms, one is won after 27 ms and one would be after 507 ms. Within 100 ms the
second wins, within 20 ms none does; and an auction is lost with legs that fail. The first of two
transactions for a leg is refused after 3 ms, and the second is verified after 7 ms and wins. -/
theorem run_first_win_secondLeg :
    (∃ win, Auctioned 100 ["ADA", "BTC", "ETH"] [(2, false), (27, true), (507, true)] (.ok win) ∧
      win.leg = "BTC") ∧
    Auctioned 20 ["ADA", "BTC", "ETH"] [(2, false), (27, true), (507, true)]
      (.error (.timedOut 20)) ∧
    Auctioned 100 ["ADA", "LTC"] [(2, false), (4, false)] (.error .noVerifiedLeg) ∧
    ∃ trace elapsed hash completions,
      ((racingLane 100).runLeg samplePackages 1 "BTC" { sampleCall with feeds := ["BTC"] }).Ends
        trace elapsed (.ok ⟨"BTC", hash⟩) ∧
      List.Forall₂ (fun blob => ((racingLane 100).verify ["BTC"] samplePackages 1 blob).EndsAs)
        [blobOffering 4, sampleBlob] completions ∧
      completions.map Completion.ending = [(3, false), (7, true)] := by
  have auctioned : ∀ total feeds, ∃ trace elapsed result racing spent,
      ((racingLane total).run { sampleCall with feeds } samplePackages 3000 1).Ends trace elapsed
        result ∧
      AnsweredBy racingAnswers racing ∧
      (racingLane total).LegsDecide samplePackages 1 (racingLegs feeds) racing spent result := by
    intro total feeds
    let auction := (racingLane total).run { sampleCall with feeds } samplePackages 3000 1
    have ends := run_ends (.answering racingAnswers) auction ()
    have answered := history_answered racingAnswers auction
    rcases (run_first_win (racingLane total) samplePackages 1).1 _ _ _ _ _ ends with
      ⟨failure, built, _⟩ | ⟨offered, building, racing, start, spent, split, _, built, decided⟩
    · rw [racingLane_legs] at built
      obtain ⟨_, _, same⟩ := ends_done_iff.mp built
      cases same
    · rw [racingLane_legs] at built
      obtain ⟨_, _, same⟩ := ends_done_iff.mp built
      cases same
      refine ⟨_, _, _, racing, spent, ends, ?_, decided⟩
      intro exchange member
      exact answered exchange (split ▸ List.mem_append_right building member)
  refine ⟨?_, ?_, ?_, ?_⟩
  · obtain ⟨trace, elapsed, result, racing, spent, ends, answered, decided⟩ :=
      auctioned 100 ["ADA", "BTC", "ETH"]
    obtain ⟨completions, own, endings, law⟩ := decided.alone answered
      [(2, false), (27, true), (507, true)] (by decide +kernel) (by decide)
    obtain ⟨first, among, time, win, success, rfl⟩ :=
      law.won_of_ending endings (List.mem_cons_of_mem _ List.mem_cons_self) (by decide) (by decide)
    refine ⟨win, ⟨trace, elapsed, completions, ends, own, endings⟩, ?_⟩
    rcases own with _ | ⟨ada, _ | ⟨bitcoin, _ | ⟨ether, _ | _⟩⟩⟩
    simp only [List.map_cons, List.cons.injEq, Completion.ending, Prod.mk.injEq] at endings
    simp only [List.mem_cons, List.not_mem_nil, or_false] at among
    obtain ⟨⟨soon, _⟩, _, ⟨late, _⟩, _⟩ := endings
    rcases among with rfl | rfl | rfl
    · cases soon.symm.trans time
    · exact bitcoin.named win success
    · cases late.symm.trans time
  · obtain ⟨trace, elapsed, result, racing, spent, ends, answered, decided⟩ :=
      auctioned 20 ["ADA", "BTC", "ETH"]
    obtain ⟨completions, own, endings, law⟩ := decided.alone answered
      [(2, false), (27, true), (507, true)] (by decide +kernel) (by decide)
    obtain rfl := law.late_of_endings endings (by decide) (by decide)
    exact ⟨trace, elapsed, completions, ends, own, endings⟩
  · obtain ⟨trace, elapsed, result, racing, spent, ends, answered, decided⟩ :=
      auctioned 100 ["ADA", "LTC"]
    obtain ⟨completions, own, endings, law⟩ := decided.alone answered
      [(2, false), (4, false)] (by decide +kernel) (by decide)
    obtain rfl := law.lost_of_endings endings (by decide)
    exact ⟨trace, elapsed, completions, ends, own, endings⟩
  · let leg := (racingLane 100).runLeg samplePackages 1 "BTC" { sampleCall with feeds := ["BTC"] }
    have ends := run_ends (.answering racingAnswers) leg ()
    have answered := history_answered racingAnswers leg
    have collected : (((racingLane 100).collect "BTC" { sampleCall with feeds := ["BTC"] }).alone
        racingAnswers).result = .ok [blobOffering 4, sampleBlob] := rfl
    rcases (run_first_win (racingLane 100) samplePackages 1).2 _ _ _ _ _ ends with
      ⟨failure, asked, _⟩ |
        ⟨blobs, asking, racing, closing, start, spent, split, _, asked, decided⟩
    · rw [asked.alone_eq answered] at collected
      cases collected
    · rw [split] at answered
      obtain ⟨before, after⟩ := List.forall_mem_append.mp answered
      rw [asked.alone_eq before] at collected
      cases collected
      obtain ⟨completions, own, endings, law⟩ := decided.alone (List.forall_mem_append.mp after).1
        [(3, false), (7, true)] (by decide +kernel) (by decide)
      obtain ⟨first, among, time, hash, success, won⟩ :=
        law.won_of_ending endings (List.mem_cons_of_mem _ List.mem_cons_self) trivial (by decide)
      rw [won] at ends
      exact ⟨_, _, hash, completions, ends, own, endings⟩

end PriceRelay.AuctionLane
