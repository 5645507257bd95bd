import PriceRelay.Chain.Providers
import PriceRelay.Proofs.Activity.InTime
import PriceRelay.Rehearsal.Stage
/-!
Several nodes behind one. They are asked in turn, each once and none after the first that answers;
their time adds up, and at the limit the node that is being asked is the last to be asked.
-/

namespace PriceRelay.Rpc

open Activity Passage

section

variable {State : Type}

def tried (call : RpcCall) (rpc : Rpc) : Attempt call.Answer :=
  (rpc.request call).bind fun
    | .ok answer => .done (.ok answer)
    | .error failure => (Task.note (providerFailed failure)).bind fun _ => .done (.error failure)

/-- What nodes reply if they are asked in turn, whatever those before them replied. -/
def replies (host : Host world State) (call : RpcCall) (nodes : List Rpc) (state : State) :
    List (Passage world (Except Failure call.Answer)) :=
  inTurn host (nodes.map (tried call)) state

def AllFail {α : Type} (replies : List (Passage world (Except Failure α))) : Prop :=
  ∀ reply ∈ replies, ∃ failure, reply.result = .error failure

/-- After nothing but failures there is an answer. -/
def AnswersFirst {α : Type} (replies failed : List (Passage world (Except Failure α)))
    (reply : Passage world (Except Failure α)) (answer : α) : Prop :=
  (∃ rest, replies = failed ++ reply :: rest) ∧ AllFail failed ∧ reply.result = .ok answer

/-- After nothing but failures a limit is over in the course of a reply. -/
def UnderWayAt {α : Type} (limit : Millis) (replies failed : List (Passage world (Except Failure α)))
    (reply : Passage world (Except Failure α)) : Prop :=
  (∃ rest, replies = failed ++ reply :: rest) ∧ AllFail failed ∧ total failed ≤ limit ∧
    limit < total failed + reply.elapsed

variable {host : Host world State} {state : State} {call : RpcCall} {nodes : List Rpc}
  {limit : Millis} {last : Failure}

theorem firstAnswer_cons (rpc : Rpc) (rest : List Rpc) :
    firstAnswer call (rpc :: rest) last = (tried call rpc).bind fun
      | .ok answer => .done (.ok answer)
      | .error failure => firstAnswer call rest failure := by
  rw [firstAnswer, tried, bind_assoc]
  congr 1
  funext reply
  cases reply <;> rfl

theorem replies_eq_cons {reply : Passage world (Except Failure call.Answer)}
    {rest : List (Passage world (Except Failure call.Answer))}
    (same : replies host call nodes state = reply :: rest) :
    ∃ rpc others, nodes = rpc :: others ∧ reply = (tried call rpc).passage host state ∧
      rest = replies host call others ((tried call rpc).run host state).state := by
  cases nodes with
  | nil => cases same
  | cons rpc others =>
    cases same
    exact ⟨rpc, others, rfl, rfl, rfl⟩

/-- Failures take their time, and the nodes behind them have the rest of the limit. -/
theorem firstAnswer_skips (last : Failure)
    {failed rest : List (Passage world (Except Failure call.Answer))}
    (same : replies host call nodes state = failed ++ rest) (fail : AllFail failed)
    (inTime : total failed ≤ limit) :
    ∃ others later last', replies host call others later = rest ∧
      (within limit (firstAnswer call nodes last)).passage host state =
        (⟨traces failed, total failed, ()⟩ : Passage world Unit).followedBy
          ((within (limit - total failed) (firstAnswer call others last')).passage host later) := by
  induction failed generalizing nodes state limit last with
  | nil => exact ⟨nodes, state, last, same, by simp [followedBy, traces, total]⟩
  | cons reply failed ih =>
    obtain ⟨rpc, others, rfl, rfl, onward⟩ := replies_eq_cons same
    obtain ⟨failure, failing⟩ := fail _ List.mem_cons_self
    rw [total_cons] at inTime ⊢
    have soon := Nat.le_trans (Nat.le_add_right _ _) inTime
    obtain ⟨others, later, last', same', onward⟩ :=
      ih failure onward.symm (fun other member => fail other (List.mem_cons_of_mem _ member))
        (Nat.le_sub_of_add_le' inTime)
    refine ⟨others, later, last', same', ?_⟩
    have failing' : ((tried call rpc).run host state).result = .error failure := failing
    rw [firstAnswer_cons, passage_within_bind _ soon, failing', onward, traces_cons, Nat.sub_sub]
    simp [followedBy, Nat.add_assoc]

/-- Behind the limit stands its own failure. -/
theorem fallback_passage :
    ((fallback nodes limit).request call).passage host state =
      let tries := (within limit
        (firstAnswer call nodes (.text s!"{call.name}: no providers"))).passage host state
      ⟨tries.trace, tries.elapsed, tries.result.getD (.error (allTimedOut call limit))⟩ := by
  unfold fallback
  dsimp only
  rw [passage_bind]
  simp only [passage]
  cases ((within limit (firstAnswer call nodes _)).run host state).result <;>
    simp [followedBy, history, run, runFrom]

/-- The first answer ends the round, if it comes in time. -/
theorem firstAnswer_won {failed : List (Passage world (Except Failure call.Answer))}
    {reply : Passage world (Except Failure call.Answer)} {answer : call.Answer}
    (first : AnswersFirst (replies host call nodes state) failed reply answer)
    (inTime : total failed + reply.elapsed ≤ limit) :
    (within limit (firstAnswer call nodes last)).passage host state =
      ⟨traces failed ++ reply.trace, total failed + reply.elapsed, some (.ok answer)⟩ := by
  obtain ⟨⟨rest, same⟩, fail, answered⟩ := first
  obtain ⟨others, later, last', same', skipped⟩ :=
    firstAnswer_skips last same fail (Nat.le_trans (Nat.le_add_right _ _) inTime)
  obtain ⟨rpc, more, rfl, rfl, _⟩ := replies_eq_cons same'
  have answered' : ((tried call rpc).run host later).result = .ok answer := answered
  rw [skipped, firstAnswer_cons, passage_within_bind _ (Nat.le_sub_of_add_le' inTime), answered',
    passage_within_done]
  simp [followedBy]

/-- Where all fail in time, the last failure is what is left. -/
theorem firstAnswer_lost {failed : List (Passage world (Except Failure call.Answer))}
    {reply : Passage world (Except Failure call.Answer)} {failure : Failure}
    (same : replies host call nodes state = failed ++ [reply]) (fail : AllFail failed)
    (failing : reply.result = .error failure) (inTime : total failed + reply.elapsed ≤ limit) :
    (within limit (firstAnswer call nodes last)).passage host state =
      ⟨traces failed ++ reply.trace, total failed + reply.elapsed, some (.error failure)⟩ := by
  obtain ⟨others, later, last', same', skipped⟩ :=
    firstAnswer_skips last same fail (Nat.le_trans (Nat.le_add_right _ _) inTime)
  obtain ⟨rpc, more, rfl, rfl, none⟩ := replies_eq_cons same'
  have nobody : more = [] := by
    cases more with
    | nil => rfl
    | cons other _ => cases none
  subst nobody
  have failing' : ((tried call rpc).run host later).result = .error failure := failing
  rw [skipped, firstAnswer_cons, passage_within_bind _ (Nat.le_sub_of_add_le' inTime), failing']
  simp only [firstAnswer, passage_within_done]
  simp [followedBy]

/-- A limit that is over in the course of a reply ends the round there. -/
theorem firstAnswer_late {failed : List (Passage world (Except Failure call.Answer))}
    {reply : Passage world (Except Failure call.Answer)}
    (underWay : UnderWayAt limit (replies host call nodes state) failed reply) :
    ∃ part, part <+: reply.trace ∧
      (within limit (firstAnswer call nodes last)).passage host state =
        ⟨traces failed ++ part, limit, none⟩ := by
  obtain ⟨⟨rest, same⟩, fail, begun, late⟩ := underWay
  obtain ⟨others, later, last', same', skipped⟩ := firstAnswer_skips last same fail begun
  obtain ⟨rpc, more, rfl, rfl, _⟩ := replies_eq_cons same'
  rw [skipped, firstAnswer_cons]
  obtain ⟨part, started, stopped⟩ := passage_within_bind_of_lt
    (fun
      | .ok answer => .done (.ok answer)
      | .error failure => firstAnswer call more failure)
    (Nat.sub_lt_left_of_lt_add begun late)
  refine ⟨part, started, ?_⟩
  rw [stopped]
  simp [followedBy, Nat.add_sub_of_le begun]

end

section

variable {α : Type} {rest failed : List (Passage world (Except Failure α))}
  {reply next : Passage world (Except Failure α)} {failure : Failure} {answer : α} {limit : Millis}

theorem AllFail.cons (fail : AllFail failed) (failing : reply.result = .error failure) :
    AllFail (reply :: failed) := by
  intro other member
  rcases List.mem_cons.mp member with rfl | among
  · exact ⟨failure, failing⟩
  · exact fail other among

theorem allFail_nil : AllFail ([] : List (Passage world (Except Failure α))) :=
  fun _ member => absurd member List.not_mem_nil

theorem AnswersFirst.cons (first : AnswersFirst rest failed next answer)
    (failing : reply.result = .error failure) :
    AnswersFirst (reply :: rest) (reply :: failed) next answer := by
  obtain ⟨⟨others, rfl⟩, fail, answered⟩ := first
  exact ⟨⟨others, rfl⟩, fail.cons failing, answered⟩

theorem UnderWayAt.cons (underWay : UnderWayAt (limit - reply.elapsed) rest failed next)
    (failing : reply.result = .error failure) (inTime : reply.elapsed ≤ limit) :
    UnderWayAt limit (reply :: rest) (reply :: failed) next := by
  obtain ⟨⟨others, rfl⟩, fail, begun, late⟩ := underWay
  refine ⟨⟨others, rfl⟩, fail.cons failing, ?_, ?_⟩
  · rw [total_cons]
    exact Nat.add_le_of_le_sub' inTime begun
  · rw [total_cons, Nat.add_assoc]
    exact (Nat.sub_lt_iff_lt_add' inTime).mp late

/-- A limit that no answer and no last failure comes before is over in the course of a reply. -/
theorem exists_underWay {replies : List (Passage world (Except Failure α))}
    (answers : ∀ failed reply answer, AnswersFirst replies failed reply answer →
      limit < total failed + reply.elapsed)
    (fails : AllFail replies → limit < total replies) :
    ∃ failed reply, UnderWayAt limit replies failed reply := by
  induction replies generalizing limit with
  | nil => exact absurd (fails allFail_nil) (Nat.not_lt_zero _)
  | cons reply rest ih =>
    rcases Nat.lt_or_ge limit reply.elapsed with late | inTime
    · exact ⟨[], reply, ⟨rest, rfl⟩, allFail_nil, Nat.zero_le limit, by simpa [total] using late⟩
    · cases result : reply.result with
      | ok answer =>
        have late := answers [] reply answer ⟨⟨rest, rfl⟩, allFail_nil, result⟩
        exact absurd inTime (Nat.not_le_of_lt (by simpa [total] using late))
      | error failure =>
        have later : ∃ failed next, UnderWayAt (limit - reply.elapsed) rest failed next := by
          apply ih
          · intro failed next answer first
            have late := answers _ _ _ (first.cons result)
            rw [total_cons, Nat.add_assoc] at late
            exact Nat.sub_lt_left_of_lt_add inTime late
          · intro fail
            exact Nat.sub_lt_left_of_lt_add inTime (fails (fail.cons result))
        obtain ⟨failed, next, underWay⟩ := later
        exact ⟨reply :: failed, next, underWay.cons result inTime⟩

end

/-- The law of a round, for every call, every list of nodes in every world, and every limit. The
first answer that comes in time is the result, and those asked are its node and the ones before it.
Where all fail in time, all were asked and the last failure is the result. Otherwise the round stops
at the limit, and the node that is being asked by then is the last to be asked. -/
theorem fallback_asks_inTurn {State : Type} (host : Host world State) (call : RpcCall)
    (nodes : List Rpc) (limit : Millis) (state : State) :
    let replies := replies host call nodes state
    let round := ((fallback nodes limit).request call).passage host state
    (∀ failed reply answer, AnswersFirst replies failed reply answer →
      total failed + reply.elapsed ≤ limit →
      round = ⟨traces failed ++ reply.trace, total failed + reply.elapsed, .ok answer⟩) ∧
    (∀ failed reply failure, replies = failed ++ [reply] → AllFail replies →
      reply.result = .error failure → total replies ≤ limit →
      round = ⟨traces replies, total replies, .error failure⟩) ∧
    ((∀ failed reply answer, AnswersFirst replies failed reply answer →
        limit < total failed + reply.elapsed) →
      (AllFail replies → limit < total replies) →
      ∃ failed reply part, UnderWayAt limit replies failed reply ∧ part <+: reply.trace ∧
        round = ⟨traces failed ++ part, limit, .error (allTimedOut call limit)⟩) := by
  intro replies round
  have given : round = _ := fallback_passage
  refine ⟨?_, ?_, ?_⟩
  · intro failed reply answer first inTime
    rw [given, firstAnswer_won first inTime]
    rfl
  · intro failed reply failure same fail failing inTime
    have before : AllFail failed := fun other member =>
      fail other (same ▸ List.mem_append_left _ member)
    rw [same, total_concat] at inTime ⊢
    rw [given, firstAnswer_lost same before failing inTime, traces_concat]
    rfl
  · intro answers fails
    obtain ⟨failed, reply, underWay⟩ := exists_underWay answers fails
    obtain ⟨part, started, stopped⟩ := firstAnswer_late underWay
    refine ⟨failed, reply, part, underWay, started, ?_⟩
    rw [given, stopped]
    rfl

/-- A node that fails after 10 ms, one that answers 7 after 20 ms, and one that fails after 5 ms. -/
def threeNodes : Stage :=
  { nodes := [
      { script := [("gas_price", [⟨10, .error (.text "down")⟩])] },
      { script := [("gas_price", [⟨20, .ok (.number 7)⟩])] },
      { script := [("gas_price", [⟨5, .error (.text "busy")⟩])] }] }

def priceReplies (providers : List Nat) : List (Passage world (Except Failure Nat)) :=
  replies Stage.host .gasPrice (providers.map Rpc.node) threeNodes

def priceRound (providers : List Nat) (limit : Millis) : Passage world (Except Failure Nat) :=
  ((fallback (providers.map Rpc.node) limit).request .gasPrice).passage Stage.host threeNodes

/-- The answer of the second node comes after 30 ms, and the third is not asked; without the second
node the last failure is left; and a limit of 15 ms is over while the second is being asked. -/
theorem fallback_asks_inTurn_threeNodes :
    (∃ failed reply, AnswersFirst (priceReplies [0, 1, 2]) failed reply 7 ∧
      priceRound [0, 1, 2] 30 = ⟨traces failed ++ reply.trace, 30, .ok 7⟩) ∧
    (AllFail (priceReplies [0, 2]) ∧
      priceRound [0, 2] 30 = ⟨traces (priceReplies [0, 2]), 15, .error (.text "busy")⟩) ∧
    (∃ failed reply part, UnderWayAt 15 (priceReplies [0, 1]) failed reply ∧ part <+: reply.trace ∧
      priceRound [0, 1] 15 = ⟨traces failed ++ part, 15, .error (allTimedOut .gasPrice 15)⟩) := by
  have law := fallback_asks_inTurn Stage.host .gasPrice
  refine ⟨?_, ?_, ?_⟩
  · have down : (priceReplies [0, 1, 2])[0].result = .error (.text "down") := rfl
    have first : AnswersFirst (priceReplies [0, 1, 2]) [(priceReplies [0, 1, 2])[0]]
        (priceReplies [0, 1, 2])[1] 7 :=
      ⟨⟨[_], rfl⟩, allFail_nil.cons down, rfl⟩
    exact ⟨_, _, first, (law _ 30 threeNodes).1 _ _ _ first (by decide +kernel)⟩
  · have down : (priceReplies [0, 2])[0].result = .error (.text "down") := rfl
    have busy : (priceReplies [0, 2])[1].result = .error (.text "busy") := rfl
    have fail : AllFail (priceReplies [0, 2]) := (allFail_nil.cons busy).cons down
    exact ⟨fail, (law _ 30 threeNodes).2.1 [_] _ _ rfl fail rfl (by decide +kernel)⟩
  · refine (law _ 15 threeNodes).2.2 ?_ ?_
    · rintro failed reply answer ⟨⟨rest, same⟩, -, answered⟩
      -- Only the second of the two replies is an answer.
      rcases failed with _ | ⟨first, _ | ⟨second, more⟩⟩
      · obtain ⟨rfl, -⟩ := List.cons.inj same
        cases answered
      · obtain ⟨rfl, later⟩ := List.cons.inj same
        obtain ⟨rfl, -⟩ := List.cons.inj later
        decide +kernel
      · have short := congrArg List.length same
        simp [replies, inTurn] at short
    · intro fail
      decide +kernel

end PriceRelay.Rpc
