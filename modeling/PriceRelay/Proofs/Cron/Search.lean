import PriceRelay.Proofs.Calendar.Moment
import PriceRelay.Cron.Search
/-!
What the search for the last moment of a schedule finds. It finds moments of the schedule only; and
where the schedule has the year of the starting moment, or no year up to it, it finds the last one.
-/

namespace PriceRelay.Cron.Schedule

/-- The last of some moments, if there are any. -/
def Latest (among : Moment → Prop) : Option Moment → Prop
  | none => ∀ moment, ¬ among moment
  | some found => among found ∧ ∀ moment, among moment → moment.toSeconds ≤ found.toSeconds

theorem Latest.congr {among others : Moment → Prop} {found? : Option Moment}
    (latest : Latest among found?) (same : ∀ moment, among moment ↔ others moment) :
    Latest others found? := by
  have equal : among = others := funext fun moment => propext (same moment)
  rw [← equal]
  exact latest

theorem latest_single {among : Moment → Prop} {found : Moment} (known : among found)
    (only : ∀ moment, among moment → moment = found) : Latest among (some found) := by
  refine ⟨known, ?_⟩
  intro moment also
  exact Nat.le_of_eq (congrArg Moment.toSeconds (only moment also))

/-- The first find in groups that lie one before the other is the last of all of them. -/
theorem latest_findSome? {α : Type} {search : α → Option Moment} (steps : List α)
    (group : α → Moment → Prop) (each : ∀ step ∈ steps, Latest (group step) (search step))
    (descending : steps.Pairwise fun first second => ∀ one other, group first one →
      group second other → other.toSeconds ≤ one.toSeconds) :
    Latest (fun moment => ∃ step ∈ steps, group step moment) (steps.findSome? search) := by
  induction steps with
  | nil =>
    intro moment ⟨step, member, _⟩
    cases member
  | cons step rest ih =>
    have head := each step List.mem_cons_self
    obtain ⟨before, descending⟩ := List.pairwise_cons.mp descending
    have tail := ih (fun other member => each other (.tail _ member)) descending
    rw [List.findSome?_cons]
    cases first : search step with
    | some found =>
      rw [first] at head
      refine ⟨⟨step, List.mem_cons_self, head.1⟩, ?_⟩
      intro moment ⟨other, member, grouped⟩
      rcases List.mem_cons.mp member with rfl | later
      · exact head.2 moment grouped
      · exact before other later found moment head.1 grouped
    | none =>
      rw [first] at head
      apply tail.congr
      intro moment
      constructor
      · intro ⟨other, member, grouped⟩
        exact ⟨other, .tail _ member, grouped⟩
      · intro ⟨other, member, grouped⟩
        rcases List.mem_cons.mp member with rfl | later
        · exact absurd grouped (head moment)
        · exact ⟨other, later, grouped⟩

theorem downward_eq (values : List Nat) (onPath : Bool) (start : Nat) :
    downward values onPath start =
      (values.reverse.filter fun value => !onPath || value ≤ start).map fun value =>
        (value, onPath && value = start) := by
  cases onPath with
  | true => simp [downward]
  | false =>
    simp only [downward, Bool.not_false, Bool.true_or, Bool.false_and]
    rw [List.filter_eq_self.mpr (fun _ _ => rfl)]
    rfl

/-- One level of the search: the values of a unit are tried downward, and for each of them the last
moment with that value is found. Moments that are alike, as those with the same larger units, follow
the order of this unit; on the path only moments up to the start count. -/
theorem latest_downward {values : List Nat} {onPath : Bool} {start : Moment} {among : Moment → Prop}
    {search : Nat × Bool → Option Moment} (unit : Moment → Nat) (alike : Moment → Prop)
    (increasing : values.Pairwise (· < ·))
    (ordered : ∀ one other, alike one → alike other → unit one < unit other →
      one.toSeconds < other.toSeconds)
    (path : onPath = true → alike start)
    (listed : ∀ moment, among moment → alike moment ∧ unit moment ∈ values)
    (each : ∀ value ∈ values, Latest (fun moment => (among moment ∧ unit moment = value) ∧
        ((onPath && value = unit start) = true → moment.toSeconds ≤ start.toSeconds))
      (search (value, onPath && value = unit start))) :
    Latest (fun moment => among moment ∧ (onPath = true → moment.toSeconds ≤ start.toSeconds))
      ((downward values onPath (unit start)).findSome? search) := by
  rw [downward_eq, List.findSome?_map]
  let group (value : Nat) (moment : Moment) : Prop := (among moment ∧ unit moment = value) ∧
    ((onPath && value = unit start) = true → moment.toSeconds ≤ start.toSeconds)
  have descending : (values.reverse.filter fun value => !onPath || value ≤ unit start).Pairwise
      fun first second => ∀ one other, group first one → group second other →
        other.toSeconds ≤ one.toSeconds := by
    apply List.Pairwise.filter
    rw [List.pairwise_reverse]
    apply increasing.imp
    rintro smaller larger before one other ⟨⟨first, rfl⟩, _⟩ ⟨⟨second, rfl⟩, _⟩
    exact Nat.le_of_lt (ordered other one (listed other second).1 (listed one first).1 before)
  apply (latest_findSome? _ group ?_ descending).congr
  rotate_left
  · intro value member
    exact each value (List.mem_reverse.mp (List.mem_filter.mp member).1)
  intro moment
  constructor
  · rintro ⟨value, member, ⟨known, rfl⟩, within⟩
    refine ⟨known, fun onIt => ?_⟩
    have bound : unit moment ≤ unit start := by simpa [onIt] using (List.mem_filter.mp member).2
    rcases Nat.lt_or_eq_of_le bound with before | same
    · exact Nat.le_of_lt (ordered moment start (listed moment known).1 (path onIt) before)
    · exact within (by simp [onIt, same])
  · intro ⟨known, within⟩
    refine ⟨unit moment, ?_, ⟨known, rfl⟩, ?_⟩
    · apply List.mem_filter.mpr
      refine ⟨List.mem_reverse.mpr (listed moment known).2, ?_⟩
      by_cases onIt : onPath = true
      · have bound : unit moment ≤ unit start := by
          apply Nat.le_of_not_lt
          intro after
          have later := ordered start moment (path onIt) (listed moment known).1 after
          have earlier := within onIt
          omega
        simp [bound]
      · simp [onIt]
    · intro same
      simp only [Bool.and_eq_true, decide_eq_true_eq] at same
      exact within same.1

variable {schedule : Schedule}

theorem fires_iff {moment : Moment} :
    schedule.fires moment = true ↔
      moment.year ∈ schedule.years ∧ moment.month ∈ schedule.months ∧ moment.day ∈ schedule.days ∧
      moment.day ≤ Moment.daysInMonth moment.year moment.month ∧
      Moment.weekday moment.year moment.month moment.day ∈ schedule.weekdays ∧
      moment.hour ∈ schedule.hours ∧ moment.minute ∈ schedule.minutes ∧
      moment.second ∈ schedule.seconds := by
  simp [fires, and_assoc]

theorem WellFormed.valid (wellFormed : schedule.WellFormed) {moment : Moment}
    (fires : schedule.fires moment = true) : moment.Valid := by
  obtain ⟨year, month, day, inMonth, _, hour, minute, second⟩ := fires_iff.mp fires
  have years := (CalendarUnit.mem_all _).mp (wellFormed.years.subset year)
  have months := (CalendarUnit.mem_all _).mp (wellFormed.months.subset month)
  have days := (CalendarUnit.mem_all _).mp (wellFormed.days.subset day)
  have hours := (CalendarUnit.mem_all _).mp (wellFormed.hours.subset hour)
  have minutes := (CalendarUnit.mem_all _).mp (wellFormed.minutes.subset minute)
  have seconds := (CalendarUnit.mem_all _).mp (wellFormed.seconds.subset second)
  exact ⟨years.1, months, ⟨days.1, inMonth⟩, hours.2, minutes.2, seconds.2⟩

theorem increasing_of_sublist {unit : CalendarUnit} {values : List Nat}
    (sublist : values.Sublist unit.all) : values.Pairwise (· < ·) :=
  unit.pairwise_all.sublist sublist

/-- A schedule fires on some date. -/
structure OnDate (schedule : Schedule) (year month day : Nat) : Prop where
  years : year ∈ schedule.years
  months : month ∈ schedule.months
  days : day ∈ schedule.days
  inMonth : day ≤ Moment.daysInMonth year month
  weekday : Moment.weekday year month day ∈ schedule.weekdays

theorem OnDate.fires {year month day hour minute second : Nat}
    (date : schedule.OnDate year month day) (hours : hour ∈ schedule.hours)
    (minutes : minute ∈ schedule.minutes) (seconds : second ∈ schedule.seconds) :
    schedule.fires ⟨year, month, day, hour, minute, second⟩ = true :=
  fires_iff.mpr ⟨date.years, date.months, date.days, date.inMonth, date.weekday, hours, minutes,
    seconds⟩

theorem timeOfDay?_map {year month day : Nat} {start : Moment} {onPath : Bool} :
    ((schedule.timeOfDay? downward start onPath).map fun time =>
      (⟨year, month, day, time.1, time.2.1, time.2.2⟩ : Moment)) =
    (downward schedule.hours onPath start.hour).findSome? fun (hour, onPath) =>
      (downward schedule.minutes onPath start.minute).findSome? fun (minute, onPath) =>
        (downward schedule.seconds onPath start.second).findSome? fun step =>
          some ⟨year, month, day, hour, minute, step.1⟩ := by
  have first : ∀ (steps : Steps) (hour minute : Nat),
      ((steps.head?.map fun step => (hour, minute, step.1)).map
        fun time => (⟨year, month, day, time.1, time.2.1, time.2.2⟩ : Moment)) =
      steps.findSome? fun step => some ⟨year, month, day, hour, minute, step.1⟩ := by
    intro steps hour minute
    cases steps <;> rfl
  unfold timeOfDay?
  simp only [List.map_findSome?, Function.comp_def, first]

/-- The month of a moment does not end before its day. -/
theorem daysDownward_eq {start : Moment} (valid : start.Valid) {year month : Nat} {onPath : Bool}
    (path : onPath = true → start.year = year ∧ start.month = month) :
    schedule.daysDownward year month onPath start.day =
      downward (schedule.days.filter (· ≤ Moment.daysInMonth year month)) onPath start.day := by
  unfold daysDownward
  apply if_neg
  intro past
  simp only [Bool.and_eq_true, decide_eq_true_eq] at past
  obtain ⟨⟨onIt, _⟩, short⟩ := past
  obtain ⟨rfl, rfl⟩ := path onIt
  have within := valid.day.2
  omega

section

variable (wellFormed : schedule.WellFormed) {start : Moment} (valid : start.Valid)

include wellFormed valid

/-- In a minute of the schedule the last second is found. -/
theorem latest_seconds {year month day hour minute : Nat} {onPath : Bool}
    (path : onPath = true → start.year = year ∧ start.month = month ∧ start.day = day ∧
      start.hour = hour ∧ start.minute = minute)
    (date : schedule.OnDate year month day) (inHours : hour ∈ schedule.hours)
    (inMinutes : minute ∈ schedule.minutes) :
    Latest (fun moment => (((((schedule.fires moment = true ∧ moment.year = year) ∧
        moment.month = month) ∧ moment.day = day) ∧ moment.hour = hour) ∧
        moment.minute = minute) ∧ (onPath = true → moment.toSeconds ≤ start.toSeconds))
      ((downward schedule.seconds onPath start.second).findSome? fun step =>
        some ⟨year, month, day, hour, minute, step.1⟩) := by
  apply latest_downward Moment.second
    (fun moment => moment.Valid ∧ moment.year = year ∧ moment.month = month ∧
      moment.day = day ∧ moment.hour = hour ∧ moment.minute = minute)
    (increasing_of_sublist wellFormed.seconds)
  · rintro one other ⟨_, rfl, rfl, rfl, rfl, rfl⟩ ⟨_, year, month, day, hour, minute⟩ before
    exact Moment.Valid.toSeconds_lt_of_second year.symm month.symm day.symm hour.symm
      minute.symm before
  · intro onIt
    exact ⟨valid, path onIt⟩
  · rintro moment ⟨⟨⟨⟨⟨fires, year⟩, month⟩, day⟩, hour⟩, minute⟩
    obtain ⟨_, _, _, _, _, _, _, second⟩ := fires_iff.mp fires
    exact ⟨⟨wellFormed.valid fires, year, month, day, hour, minute⟩, second⟩
  · -- A single moment is left, and on the path it is the start itself.
    intro second inSeconds
    have fires : schedule.fires ⟨year, month, day, hour, minute, second⟩ = true :=
      date.fires inHours inMinutes inSeconds
    apply latest_single
    · refine ⟨⟨⟨⟨⟨⟨⟨fires, rfl⟩, rfl⟩, rfl⟩, rfl⟩, rfl⟩, rfl⟩, ?_⟩
      intro onIt
      simp only [Bool.and_eq_true, decide_eq_true_eq] at onIt
      obtain ⟨onIt, sameSecond⟩ := onIt
      obtain ⟨sameYear, sameMonth, sameDay, sameHour, sameMinute⟩ := path onIt
      apply Nat.le_of_eq
      rw [← sameYear, ← sameMonth, ← sameDay, ← sameHour, ← sameMinute, sameSecond]
    · rintro moment ⟨⟨⟨⟨⟨⟨⟨_, rfl⟩, rfl⟩, rfl⟩, rfl⟩, rfl⟩, rfl⟩, _⟩
      rfl

theorem latest_minutes {year month day hour : Nat} {onPath : Bool}
    (path : onPath = true → start.year = year ∧ start.month = month ∧ start.day = day ∧
      start.hour = hour)
    (date : schedule.OnDate year month day) (inHours : hour ∈ schedule.hours) :
    Latest (fun moment => ((((schedule.fires moment = true ∧ moment.year = year) ∧
        moment.month = month) ∧ moment.day = day) ∧ moment.hour = hour) ∧
        (onPath = true → moment.toSeconds ≤ start.toSeconds))
      ((downward schedule.minutes onPath start.minute).findSome? fun (minute, onPath) =>
        (downward schedule.seconds onPath start.second).findSome? fun step =>
          some ⟨year, month, day, hour, minute, step.1⟩) := by
  apply latest_downward Moment.minute
    (fun moment => moment.Valid ∧ moment.year = year ∧ moment.month = month ∧
      moment.day = day ∧ moment.hour = hour)
    (increasing_of_sublist wellFormed.minutes)
  · rintro one other ⟨known, rfl, rfl, rfl, rfl⟩ ⟨_, year, month, day, hour⟩ before
    exact known.toSeconds_lt_of_minute year.symm month.symm day.symm hour.symm before
  · intro onIt
    exact ⟨valid, path onIt⟩
  · rintro moment ⟨⟨⟨⟨fires, year⟩, month⟩, day⟩, hour⟩
    obtain ⟨_, _, _, _, _, _, minute, _⟩ := fires_iff.mp fires
    exact ⟨⟨wellFormed.valid fires, year, month, day, hour⟩, minute⟩
  · intro minute inMinutes
    apply latest_seconds wellFormed valid _ date inHours inMinutes
    intro onIt
    simp only [Bool.and_eq_true, decide_eq_true_eq] at onIt
    obtain ⟨onIt, same⟩ := onIt
    obtain ⟨year, month, day, hour⟩ := path onIt
    exact ⟨year, month, day, hour, same.symm⟩

theorem latest_timeOfDay {year month day : Nat} {onPath : Bool}
    (path : onPath = true → start.year = year ∧ start.month = month ∧ start.day = day)
    (date : schedule.OnDate year month day) :
    Latest (fun moment => (((schedule.fires moment = true ∧ moment.year = year) ∧
        moment.month = month) ∧ moment.day = day) ∧
        (onPath = true → moment.toSeconds ≤ start.toSeconds))
      ((schedule.timeOfDay? downward start onPath).map fun time =>
        ⟨year, month, day, time.1, time.2.1, time.2.2⟩) := by
  rw [timeOfDay?_map]
  apply latest_downward Moment.hour
    (fun moment => moment.Valid ∧ moment.year = year ∧ moment.month = month ∧
      moment.day = day)
    (increasing_of_sublist wellFormed.hours)
  · rintro one other ⟨known, rfl, rfl, rfl⟩ ⟨_, year, month, day⟩ before
    exact known.toSeconds_lt_of_hour year.symm month.symm day.symm before
  · intro onIt
    exact ⟨valid, path onIt⟩
  · rintro moment ⟨⟨⟨fires, year⟩, month⟩, day⟩
    obtain ⟨_, _, _, _, _, hour, _⟩ := fires_iff.mp fires
    exact ⟨⟨wellFormed.valid fires, year, month, day⟩, hour⟩
  · intro hour inHours
    apply latest_minutes wellFormed valid _ date inHours
    intro onIt
    simp only [Bool.and_eq_true, decide_eq_true_eq] at onIt
    obtain ⟨onIt, same⟩ := onIt
    obtain ⟨year, month, day⟩ := path onIt
    exact ⟨year, month, day, same.symm⟩

theorem latest_onDays {year month : Nat} {onPath : Bool}
    (path : onPath = true → start.year = year ∧ start.month = month)
    (date : year ∈ schedule.years ∧ month ∈ schedule.months) :
    Latest (fun moment => ((schedule.fires moment = true ∧ moment.year = year) ∧
        moment.month = month) ∧ (onPath = true → moment.toSeconds ≤ start.toSeconds))
      (schedule.onDays? downward start year month
        (schedule.daysDownward year month onPath start.day)) := by
  unfold onDays?
  rw [daysDownward_eq valid path]
  apply latest_downward Moment.day
    (fun moment => moment.Valid ∧ moment.year = year ∧ moment.month = month)
    ((increasing_of_sublist wellFormed.days).filter _)
  · rintro one other ⟨known, rfl, rfl⟩ ⟨_, year, month⟩ before
    exact known.toSeconds_lt_of_day year.symm month.symm before
  · intro onIt
    exact ⟨valid, path onIt⟩
  · rintro moment ⟨⟨fires, rfl⟩, rfl⟩
    obtain ⟨_, _, day, inMonth, _⟩ := fires_iff.mp fires
    exact ⟨⟨wellFormed.valid fires, rfl, rfl⟩, List.mem_filter.mpr ⟨day, by simpa using inMonth⟩⟩
  · intro day member
    obtain ⟨inDays, inMonth⟩ := List.mem_filter.mp member
    dsimp only
    by_cases weekday : Moment.weekday year month day ∈ schedule.weekdays
    · rw [if_pos (by simpa using weekday)]
      apply latest_timeOfDay wellFormed valid
      · intro onIt
        simp only [Bool.and_eq_true, decide_eq_true_eq] at onIt
        obtain ⟨onIt, same⟩ := onIt
        obtain ⟨year, month⟩ := path onIt
        exact ⟨year, month, same.symm⟩
      · exact ⟨date.1, date.2, inDays, by simpa using inMonth, weekday⟩
    · rw [if_neg (by simpa using weekday)]
      rintro moment ⟨⟨⟨⟨fires, rfl⟩, rfl⟩, rfl⟩, _⟩
      obtain ⟨_, _, _, _, listed, _⟩ := fires_iff.mp fires
      exact weekday listed

/-- In a year of the schedule the last moment is found. -/
theorem latest_months {year : Nat} {onPath : Bool} (path : onPath = true → start.year = year)
    (inYears : year ∈ schedule.years) :
    Latest (fun moment => (schedule.fires moment = true ∧ moment.year = year) ∧
        (onPath = true → moment.toSeconds ≤ start.toSeconds))
      ((downward schedule.months onPath start.month).findSome? fun (month, onPath) =>
        schedule.onDays? downward start year month
          (schedule.daysDownward year month onPath start.day)) := by
  apply latest_downward Moment.month (fun moment => moment.Valid ∧ moment.year = year)
    (increasing_of_sublist wellFormed.months)
  · rintro one other ⟨first, rfl⟩ ⟨second, year⟩ before
    exact first.toSeconds_lt_of_month second year.symm before
  · intro onIt
    exact ⟨valid, path onIt⟩
  · rintro moment ⟨fires, rfl⟩
    obtain ⟨_, month, _⟩ := fires_iff.mp fires
    exact ⟨⟨wellFormed.valid fires, rfl⟩, month⟩
  · intro month inMonths
    apply latest_onDays wellFormed valid _ ⟨inYears, inMonths⟩
    intro onIt
    simp only [Bool.and_eq_true, decide_eq_true_eq] at onIt
    exact ⟨path onIt.1, onIt.2.symm⟩

end

/-- The years of a schedule reach a moment: its year is among them, or all of them are later. -/
def Reaches (schedule : Schedule) (start : Moment) : Prop :=
  start.year ∈ schedule.years ∨ ∀ year ∈ schedule.years, start.year < year

/-- The years up to one of them are tried like the values of any other unit. -/
theorem firstOnPath_eq_downward {values : List Nat} (increasing : values.Pairwise (· < ·))
    {start : Nat} (member : start ∈ values) :
    firstOnPath (values.filter (· ≤ start)).reverse = downward values true start := by
  have decreasing : ((values.filter (· ≤ start)).reverse).Pairwise (fun later earlier =>
      earlier < later) := by
    rw [List.pairwise_reverse]
    exact increasing.filter _
  have listed : start ∈ (values.filter (· ≤ start)).reverse := by simp [member]
  have bounded : ∀ value ∈ (values.filter (· ≤ start)).reverse, value ≤ start := by
    intro value present
    simpa using (List.mem_filter.mp (List.mem_reverse.mp present)).2
  have walk : downward values true start =
      (values.filter (· ≤ start)).reverse.map fun value => (value, decide (value = start)) := by
    simp [downward, List.filter_reverse]
  rw [walk]
  generalize (values.filter (· ≤ start)).reverse = years at *
  cases years with
  | nil => cases listed
  | cons first rest =>
    obtain ⟨before, _⟩ := List.pairwise_cons.mp decreasing
    have leads : first = start := by
      rcases List.mem_cons.mp listed with same | later
      · exact same.symm
      · have less := before start later
        have most := bounded first List.mem_cons_self
        omega
    subst leads
    simp only [firstOnPath, List.map_cons, decide_true, List.cons.injEq, true_and]
    apply List.map_congr_left
    intro value member
    have less := before value member
    simp [Nat.ne_of_lt less]

/-- Where the years of the schedule reach the start, the search finds the last moment up to it. -/
theorem latest_lastUpTo (wellFormed : schedule.WellFormed) {start : Moment} (valid : start.Valid)
    (reaches : schedule.Reaches start) :
    Latest (fun moment => schedule.fires moment = true ∧ moment.toSeconds ≤ start.toSeconds)
      (schedule.lastUpTo? start) := by
  unfold lastUpTo?
  have years := increasing_of_sublist wellFormed.years
  have listed : ∀ moment, schedule.fires moment = true →
      moment.Valid ∧ moment.year ∈ schedule.years := by
    intro moment fires
    exact ⟨wellFormed.valid fires, (fires_iff.mp fires).1⟩
  rcases reaches with reached | beyond
  · rw [firstOnPath_eq_downward years reached]
    refine (latest_downward Moment.year Moment.Valid years ?_ ?_ listed ?_).congr ?_
    · intro one other first second before
      exact first.toSeconds_lt_of_year second before
    · intro _
      exact valid
    · intro year inYears
      apply latest_months wellFormed valid _ inYears
      intro onIt
      simp only [Bool.true_and, decide_eq_true_eq] at onIt
      exact onIt.symm
    · intro moment
      simp
  · have none_left : (schedule.years.filter (· ≤ start.year)).reverse = [] := by
      simp only [List.reverse_eq_nil_iff, List.filter_eq_nil_iff, decide_eq_true_eq, Nat.not_le]
      exact beyond
    rw [none_left]
    intro moment ⟨fires, within⟩
    obtain ⟨known, inYears⟩ := listed moment fires
    have later := valid.toSeconds_lt_of_year known (beyond moment.year inYears)
    omega

theorem mem_of_mem_downward {values : List Nat} {onPath : Bool} {start : Nat} {step : Nat × Bool}
    (member : step ∈ downward values onPath start) : step.1 ∈ values := by
  rw [downward_eq] at member
  obtain ⟨value, kept, rfl⟩ := List.mem_map.mp member
  exact List.mem_reverse.mp (List.mem_filter.mp kept).1

theorem mem_of_mem_firstOnPath {values : List Nat} {step : Nat × Bool}
    (member : step ∈ firstOnPath values) : step.1 ∈ values := by
  cases values with
  | nil => cases member
  | cons value rest =>
    rcases List.mem_cons.mp member with rfl | later
    · exact List.mem_cons_self
    · obtain ⟨other, present, rfl⟩ := List.mem_map.mp later
      exact List.mem_cons_of_mem _ present

theorem mem_of_mem_daysDownward {year month start : Nat} {onPath : Bool} {step : Nat × Bool}
    (member : step ∈ schedule.daysDownward year month onPath start) :
    step.1 ∈ schedule.days ∧ step.1 ≤ Moment.daysInMonth year month := by
  have listed : step.1 ∈ schedule.days.filter (· ≤ Moment.daysInMonth year month) := by
    unfold daysDownward at member
    dsimp only at member
    split at member
    · exact List.mem_reverse.mp (mem_of_mem_firstOnPath member)
    · exact mem_of_mem_downward member
  simpa using listed

theorem listed_of_timeOfDay? {start : Moment} {onPath : Bool} {time : Nat × Nat × Nat}
    (found : schedule.timeOfDay? downward start onPath = some time) :
    time.1 ∈ schedule.hours ∧ time.2.1 ∈ schedule.minutes ∧ time.2.2 ∈ schedule.seconds := by
  obtain ⟨hour, inHours, found⟩ := List.exists_of_findSome?_eq_some found
  obtain ⟨minute, inMinutes, found⟩ := List.exists_of_findSome?_eq_some found
  obtain ⟨second, first, rfl⟩ := Option.map_eq_some_iff.mp found
  exact ⟨mem_of_mem_downward inHours, mem_of_mem_downward inMinutes,
    mem_of_mem_downward (List.mem_of_mem_head? first)⟩

theorem fires_of_lastUpTo? {start moment : Moment} (found : schedule.lastUpTo? start = some moment) :
    schedule.fires moment = true ∧ moment.year ≤ start.year := by
  obtain ⟨year, inYears, found⟩ := List.exists_of_findSome?_eq_some found
  obtain ⟨month, inMonths, found⟩ := List.exists_of_findSome?_eq_some found
  obtain ⟨day, inDays, found⟩ := List.exists_of_findSome?_eq_some found
  have years := List.mem_filter.mp (List.mem_reverse.mp (mem_of_mem_firstOnPath inYears))
  have months := mem_of_mem_downward inMonths
  obtain ⟨days, inMonth⟩ := mem_of_mem_daysDownward inDays
  dsimp only at found
  split at found
  · rename_i weekday
    obtain ⟨time, timed, rfl⟩ := Option.map_eq_some_iff.mp found
    obtain ⟨hours, minutes, seconds⟩ := listed_of_timeOfDay? timed
    refine ⟨fires_iff.mpr ⟨years.1, months, days, inMonth, ?_, hours, minutes, seconds⟩, ?_⟩
    · simpa using weekday
    · simpa using years.2
  · cases found

theorem lastUpTo?_le (wellFormed : schedule.WellFormed) {start moment : Moment}
    (valid : start.Valid) (found : schedule.lastUpTo? start = some moment) :
    moment.toSeconds ≤ start.toSeconds := by
  obtain ⟨fires, year⟩ := fires_of_lastUpTo? found
  by_cases reached : start.year ∈ schedule.years
  · have latest := latest_lastUpTo wellFormed valid (.inl reached)
    rw [found] at latest
    exact latest.1.2
  · have different : moment.year ≠ start.year := by
      intro same
      exact reached (same ▸ (fires_iff.mp fires).1)
    have before : moment.year < start.year := Nat.lt_of_le_of_ne year different
    exact Nat.le_of_lt ((wellFormed.valid fires).toSeconds_lt_of_year valid before)

/-- A later search finds no earlier moment, where the years of the schedule reach its start. -/
theorem lastUpTo?_mono (wellFormed : schedule.WellFormed) {earlier later moment : Moment}
    (one : earlier.Valid) (other : later.Valid) (ordered : earlier.toSeconds ≤ later.toSeconds)
    (reaches : schedule.Reaches later) (found : schedule.lastUpTo? earlier = some moment) :
    ∃ last, schedule.lastUpTo? later = some last ∧ moment.toSeconds ≤ last.toSeconds := by
  have fires := (fires_of_lastUpTo? found).1
  have within := Nat.le_trans (lastUpTo?_le wellFormed one found) ordered
  have latest := latest_lastUpTo wellFormed other reaches
  cases searched : schedule.lastUpTo? later with
  | none =>
    rw [searched] at latest
    exact absurd ⟨fires, within⟩ (latest moment)
  | some last =>
    rw [searched] at latest
    exact ⟨last, rfl, latest.2 moment ⟨fires, within⟩⟩

def searchStart (instant : Nat) : Moment := Moment.ofSeconds (instant / 1000 - 1)

theorem lastBefore?_mono (wellFormed : schedule.WellFormed) {earlier later : Nat}
    {moment : Moment} (ordered : earlier ≤ later) (reaches : schedule.Reaches (searchStart later))
    (found : schedule.lastBefore? earlier = some moment) :
    ∃ last, schedule.lastBefore? later = some last ∧ moment.toSeconds ≤ last.toSeconds := by
  unfold lastBefore? at found ⊢
  split at found
  · cases found
  · have known : ¬ later < 1000 := by omega
    rw [if_neg known]
    apply lastUpTo?_mono wellFormed (Moment.valid_ofSeconds _) (Moment.valid_ofSeconds _) _ reaches
      found
    rw [Moment.toSeconds_ofSeconds, Moment.toSeconds_ofSeconds]
    omega

end PriceRelay.Cron.Schedule
