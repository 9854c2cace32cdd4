/-
Exemplar.Proofs.Telling — a report on a sink that has not room for all of it.

A report is made of items. Each of them tells a text, part by part up to the first part that there
is no room for, or counts a verdict, or does both; and one that fails does not keep those after it
from being tried. The text of a report is defined from its items alone. The sink holds as much of
that text as it has room for, at whatever part of whatever item the room ends: an item is told in
full exactly if there is room for the whole text up to its end, and so none is after one that was
not. The counts do not depend on the sink.

  §1 the items of a report
  §2 a sink that was given some bytes
  §3 telling a text in parts
  §4 reporting items
  §5 a whole report
-/
import Exemplar.Proofs.Lossy
import Exemplar.Proofs.Session

namespace Exemplar

variable {σ : Type}

/-! ## §1 The items of a report -/

namespace Report

/-- One item of a report. -/
inductive Item where
  /-- A script was written. -/
  | script (path : Path)
  /-- Two texts are compared; what comes of it is counted, and then told. -/
  | compared (name actual : String) (expected : Option String)
  /-- A comparison is told and not counted. It need not be one of two texts: a mismatch may have no
  expected text. -/
  | uncounted (name : String) (comparison : Comparison)
  /-- A verdict is counted and not told. -/
  | untold (verdict : Verdict)
  /-- The counts so far are told. -/
  | counts
  deriving DecidableEq, Repr

namespace Item

/-- The verdict that an item counts. -/
def verdict? : Item → Option Verdict
  | .compared _ actual expected => some (compare actual expected).verdict
  | .untold verdict => some verdict
  | .script _ | .uncounted _ _ | .counts => none

/-- The text of an item at which so much has been counted, its own verdict with it. -/
def text (counts : Summary) : Item → String
  | .script path => scriptWritten path
  | .compared name actual expected => outcome name (compare actual expected)
  | .uncounted name comparison => outcome name comparison
  | .untold _ => ""
  | .counts => summary counts

/-- Whether an item tells a text. -/
def Tells (item : Item) : Prop :=
  ∀ verdict, item ≠ .untold verdict

/-- No item tells an empty text: every text ends a line. -/
theorem text_ne_empty (item : Item) (htells : item.Tells) (counts : Summary) :
    item.text counts ≠ "" := by
  have hends (front : String) {back : String} (hback : back ≠ "") : front ++ back ≠ "" :=
    fun hempty => hback (String.append_eq_empty_iff.mp hempty).2
  have houtcome (name : String) (comparison : Comparison) : outcome name comparison ≠ "" := by
    unfold outcome
    split
    · exact hends _ (by decide)
    · exact hends _ (by decide)
    · exact hends _ (by decide)
  cases item with
  | script path => exact hends _ (by decide)
  | compared name actual expected => exact houtcome _ _
  | uncounted name comparison => exact houtcome _ _
  | untold verdict => exact absurd rfl (htells verdict)
  | counts => exact hends _ (by decide)

end Item

/-- The verdicts that items count, in order. -/
def verdictsOf (items : List Item) : List Verdict :=
  items.filterMap Item.verdict?

/-- How often each verdict is among some. -/
def tally (verdicts : List Verdict) : Summary :=
  ⟨verdicts.count .matched, verdicts.count .mismatched, verdicts.count .skipped⟩

/-- The text of items before which some verdicts were counted. -/
def textFrom (before : List Verdict) : List Item → String
  | [] => ""
  | item :: items =>
    let counted := before ++ verdictsOf [item]
    item.text (tally counted) ++ textFrom counted items

/-- The text of a report that is made of items. -/
def textOf (items : List Item) : String := textFrom [] items

theorem tally_record (verdicts : List Verdict) (verdict : Verdict) :
    (tally verdicts).record verdict = tally (verdicts ++ [verdict]) := by
  cases verdict <;> simp [tally, Summary.record]

theorem total_tally (verdicts : List Verdict) : (tally verdicts).total = verdicts.length := by
  induction verdicts with
  | nil => rfl
  | cons verdict verdicts ih =>
    cases verdict <;> simp [tally, Summary.total] at ih ⊢ <;> omega

theorem verdictsOf_append (items more : List Item) :
    verdictsOf (items ++ more) = verdictsOf items ++ verdictsOf more :=
  List.filterMap_append

theorem textFrom_append (before : List Verdict) (items more : List Item) :
    textFrom before (items ++ more) =
      textFrom before items ++ textFrom (before ++ verdictsOf items) more := by
  induction items generalizing before with
  | nil => simp [textFrom, verdictsOf]
  | cons item items ih =>
    have hverdicts : verdictsOf (item :: items) = verdictsOf [item] ++ verdictsOf items :=
      verdictsOf_append [item] items
    rw [List.cons_append, textFrom, ih, textFrom, hverdicts, List.append_assoc,
      String.append_assoc]

/-- The text of one more item stands behind that of the items before it. -/
theorem textOf_concat (items : List Item) (item : Item) :
    textOf (items ++ [item]) =
      textOf items ++ item.text (tally (verdictsOf (items ++ [item]))) := by
  rw [textOf, textFrom_append, verdictsOf_append]
  simp [textOf, textFrom]

end Report

/-! ## §2 A sink that was given some bytes -/

namespace Sink

variable {limit : Nat}

/-- The sink that takes so many bytes in all, after it was given some. -/
def given (limit : Nat) (bytes : Bytes) : Sink := ⟨some limit, bytes.take limit⟩

/-- It does not matter in how many goes it was given them. -/
theorem take_given (before bytes : Bytes) :
    (given limit before).take bytes = given limit (before ++ bytes) := by
  have hroom : limit - min limit before.length = limit - before.length := by omega
  simp [given, take, fitting, List.take_append, hroom]

/-- A sink that is full is not changed by what else it is given. -/
theorem given_of_full {before : Bytes} (hfull : limit ≤ before.length) (bytes : Bytes) :
    given limit (before ++ bytes) = given limit before := by
  rw [given, List.take_append_of_le_length hfull, given]

/-- Whether there is room for bytes behind some others: there always is for none. -/
def HasRoom (limit : Nat) (before bytes : Bytes) : Prop :=
  bytes = [] ∨ (before ++ bytes).length ≤ limit

instance (before bytes : Bytes) : Decidable (HasRoom limit before bytes) :=
  inferInstanceAs (Decidable (_ ∨ _))

theorem accepts_given (before bytes : Bytes) :
    (given limit before).accepts bytes ↔ HasRoom limit before bytes := by
  have hnil : bytes = [] ↔ bytes.length = 0 := List.length_eq_zero_iff.symm
  simp only [given, accepts, HasRoom, List.length_take, decide_eq_true_eq, List.length_append, hnil]
  omega

/-- There is room for bytes if there is for the first of them, and then for the others. -/
theorem hasRoom_append (before bytes more : Bytes) :
    HasRoom limit before (bytes ++ more) ↔
      HasRoom limit before bytes ∧ HasRoom limit (before ++ bytes) more := by
  have hnil (bytes : Bytes) : bytes = [] ↔ bytes.length = 0 := List.length_eq_zero_iff.symm
  simp only [HasRoom, hnil, List.length_append]
  omega

end Sink

/-! ## §3 Telling a text in parts -/

namespace Session

/-- Tells texts one after the other, up to the first that fails. -/
def tellEach : List String → Session σ Unit
  | [] => pure ()
  | text :: texts => do
    tell text
    tellEach texts

/-- The result of giving bytes to a sink that takes so many in all, after some others. -/
def toldWithin (limit : Nat) (before bytes : Bytes) : Except Failure Unit :=
  if Sink.HasRoom limit before bytes then .ok () else .error (.access ⟨"<stdout>"⟩ .sinkFull)

/-- Texts that are told one after the other are told as if they were one: as much of it as there is
room for, and with the same result. -/
theorem perform_tellEach {limit : Nat} {before : Bytes} (texts : List String) {w : World σ}
    (hsink : w.sink = .given limit before) :
    ((tellEach texts).perform w).1 =
        toldWithin limit before (texts.flatMap Utf8.encode) ∧
      ((tellEach texts).perform w).2.sink =
        .given limit (before ++ texts.flatMap Utf8.encode) := by
  induction texts generalizing before w with
  | nil =>
    rw [tellEach, perform_pure, List.flatMap_nil, List.append_nil]
    exact ⟨(if_pos (Or.inl rfl)).symm, hsink⟩
  | cons text texts ih =>
    have htold : (w.told (Utf8.encode text)).sink = .given limit (before ++ Utf8.encode text) := by
      rw [← Sink.take_given, ← hsink]
      rfl
    have haccepts : w.sink.accepts (Utf8.encode text) ↔
        Sink.HasRoom limit before (Utf8.encode text) := by
      rw [hsink, Sink.accepts_given]
    rw [tellEach, perform_bind, perform_tell_any, List.flatMap_cons, toldWithin,
      ← List.append_assoc]
    by_cases hroom : Sink.HasRoom limit before (Utf8.encode text)
    · obtain ⟨hresult, hafter⟩ := ih htold
      rw [if_pos (haccepts.mpr hroom)]
      refine ⟨hresult.trans ?_, hafter⟩
      simp only [toldWithin, Sink.hasRoom_append, hroom, true_and]
    · -- the texts behind the one that fails are not told, and there was no room for them
      have hfull : limit ≤ (before ++ Utf8.encode text).length := by
        unfold Sink.HasRoom at hroom
        omega
      rw [if_neg (mt haccepts.mp hroom), Sink.given_of_full hfull]
      refine ⟨(if_neg fun hall => hroom ?_).symm, htold⟩
      exact ((Sink.hasRoom_append _ _ _).mp hall).1

end Session

/-! ## §4 Reporting items -/

namespace Report

/-- A way to cut the texts of items into parts. -/
structure Cutting where
  parts : Item → Summary → List String
  joined : ∀ item counts, (parts item counts).flatMap Utf8.encode = Utf8.encode (item.text counts)

/-- Each text is told in one part. -/
def Cutting.whole : Cutting where
  parts item counts := [item.text counts]
  joined _ _ := List.flatMap_singleton _ _

/-- What a report goes on: a world, and what has been counted. -/
structure Progress (σ : Type) where
  world : World σ
  counts : Summary := {}

/-- The start of a report on a sink that takes so many bytes in all. -/
def start (limit : Nat) (w : World σ) : Progress σ :=
  { world := { w with sink := { limit := some limit } } }

/-- Reports an item: its verdict is counted if it has one, and then its text is told. -/
def Item.report (item : Item) (cutting : Cutting) (progress : Progress σ) :
    Except Failure Unit × Progress σ :=
  let counts := item.verdict?.elim progress.counts progress.counts.record
  let told := (Session.tellEach (cutting.parts item counts)).perform progress.world
  (told.1, ⟨told.2, counts⟩)

/-- Reports items in order, also after one of them has failed. -/
def report (items : List Item) (cutting : Cutting) (progress : Progress σ) : Progress σ :=
  items.foldl (fun progress item => (item.report cutting progress).2) progress

variable {limit : Nat} {cutting : Cutting} {items : List Item} {progress : Progress σ}

/-- Where a report is after some items: the sink was given their text, and their verdicts were
counted. -/
structure After (limit : Nat) (items : List Item) (progress : Progress σ) : Prop where
  sink : progress.world.sink = .given limit (Utf8.encode (textOf items))
  counts : progress.counts = tally (verdictsOf items)

theorem after_start (limit : Nat) (w : World σ) : After limit [] (start limit w) :=
  ⟨congrArg (Sink.mk (some limit)) List.take_nil.symm, rfl⟩

/-- One more item is reported as if all before it had been told in full: the failure of one of them
is not repaired, nor does it do any other harm. -/
theorem After.report (h : After limit items progress) (item : Item) (cutting : Cutting) :
    (item.report cutting progress).1 = Session.toldWithin limit (Utf8.encode (textOf items))
        (Utf8.encode (item.text (tally (verdictsOf (items ++ [item]))))) ∧
      After limit (items ++ [item]) (item.report cutting progress).2 := by
  have hcounts : item.verdict?.elim progress.counts progress.counts.record =
      tally (verdictsOf (items ++ [item])) := by
    rw [h.counts, verdictsOf_append]
    cases hverdict : item.verdict? with
    | none => simp [verdictsOf, hverdict]
    | some verdict => simp [verdictsOf, hverdict, tally_record]
  obtain ⟨hresult, hsink⟩ := Session.perform_tellEach
    (cutting.parts item (tally (verdictsOf (items ++ [item])))) h.sink
  rw [cutting.joined] at hresult hsink
  unfold Item.report
  rw [hcounts]
  refine ⟨hresult, hsink.trans ?_, rfl⟩
  rw [textOf_concat, Utf8.encode_append]

/-- Where a report is after any items that followed. -/
theorem After.reports (h : After limit items progress) (more : List Item) (cutting : Cutting) :
    After limit (items ++ more) (Report.report more cutting progress) := by
  induction more generalizing items progress with
  | nil => rwa [List.append_nil]
  | cons item more ih =>
    have hitem := ih (h.report item cutting).2
    rwa [List.append_assoc] at hitem

/-- An item that tells a text is told in full if there is room for all up to its end. -/
theorem After.report_told (h : After limit items progress) {item : Item} (htells : item.Tells)
    (cutting : Cutting) :
    (item.report cutting progress).1 =
      if (Utf8.encode (textOf (items ++ [item]))).length ≤ limit then .ok ()
      else .error (.access ⟨"<stdout>"⟩ .sinkFull) := by
  have hnonempty : Utf8.encode (item.text (tally (verdictsOf (items ++ [item])))) ≠ [] :=
    fun hnil => item.text_ne_empty htells _ (Utf8.encode_injective hnil)
  rw [(h.report item cutting).1, Session.toldWithin, textOf_concat, Utf8.encode_append]
  exact if_congr (or_iff_right hnonempty) rfl rfl

/-! ## §5 A whole report -/

/-- The text up to the end of an item is not longer than the text up to the end of a later one. -/
theorem length_textOf_le (done : List Item) (item : Item) (between : List Item) (later : Item) :
    (Utf8.encode (textOf (done ++ [item]))).length ≤
      (Utf8.encode (textOf (done ++ item :: between ++ [later]))).length := by
  have hsplit : done ++ item :: between ++ [later] = (done ++ [item]) ++ (between ++ [later]) := by
    simp
  rw [hsplit, textOf, textOf, textFrom_append _ (done ++ [item]), Utf8.encode_append,
    List.length_append]
  exact Nat.le_add_right _ _

/-- What is said of a report after some items, on a sink that takes so many bytes in all. The sink
holds the beginning of their text. An item that comes next and tells a text is told in full if there
is room for the text of all of them, and else it fails; and then every item that tells a text fails
later. Every verdict that an item has was counted, each once. -/
structure ToldUpTo (limit : Nat) (cutting : Cutting) (w : World σ) (items : List Item) : Prop where
  held : (report items cutting (start limit w)).world.sink.taken =
    (Utf8.encode (textOf items)).take limit
  told : ∀ item : Item, item.Tells →
    (item.report cutting (report items cutting (start limit w))).1 =
      if (Utf8.encode (textOf (items ++ [item]))).length ≤ limit then .ok ()
      else .error (.access ⟨"<stdout>"⟩ .sinkFull)
  failed : ∀ done item between, items = done ++ item :: between → item.Tells →
    (item.report cutting (report done cutting (start limit w))).1 ≠ .ok () →
    ∀ later : Item, later.Tells →
      (later.report cutting (report items cutting (start limit w))).1 =
        .error (.access ⟨"<stdout>"⟩ .sinkFull)
  counted : (report items cutting (start limit w)).counts =
    ⟨(verdictsOf items).count .matched, (verdictsOf items).count .mismatched,
      (verdictsOf items).count .skipped⟩
  total : (report items cutting (start limit w)).counts.total = (verdictsOf items).length

/-- Reports are told as far as there is room for them, and counted in any case. -/
theorem report_toldUpTo (limit : Nat) (cutting : Cutting) (w : World σ) (items : List Item) :
    ToldUpTo limit cutting w items := by
  have hafter (items : List Item) : After limit items (report items cutting (start limit w)) :=
    (after_start limit w).reports items cutting
  refine ⟨?_, fun item htells => (hafter items).report_told htells cutting, ?_,
    (hafter items).counts, ?_⟩
  · rw [(hafter items).sink]
    rfl
  · rintro done item between rfl htells hfailed later hlater
    have hlonger := length_textOf_le done item between later
    have hcut : ¬ (Utf8.encode (textOf (done ++ [item]))).length ≤ limit := by
      intro hroom
      rw [(hafter done).report_told htells cutting, if_pos hroom] at hfailed
      exact hfailed rfl
    rw [(hafter _).report_told hlater cutting, if_neg (by omega)]
  · rw [(hafter items).counts, total_tally]

/-- It makes no difference how the texts are cut; a session tells each of them in one part. -/
theorem report_anyCutting (limit : Nat) (cutting cutting' : Cutting) (w : World σ)
    (items : List Item) (item : Item) :
    let one := item.report cutting (report items cutting (start limit w))
    let other := item.report cutting' (report items cutting' (start limit w))
    one.1 = other.1 ∧ one.2.world.sink = other.2.world.sink ∧ one.2.counts = other.2.counts := by
  obtain ⟨hresult, hone⟩ := ((after_start limit w).reports items cutting).report item cutting
  obtain ⟨hresult', hother⟩ := ((after_start limit w).reports items cutting').report item cutting'
  exact ⟨hresult.trans hresult'.symm, hone.sink.trans hother.sink.symm,
    hone.counts.trans hother.counts.symm⟩

/-- A line for which the last byte has no room. -/
example :
    let w : World Unit := { here := [], files := .empty, tools := () }
    let progress := report [.script ⟨"/x"⟩, .untold .matched, .counts] .whole (start 20 w)
    progress.world.sink.taken = Utf8.encode "Output written to /x" ∧
      progress.counts = ⟨1, 0, 0⟩ := by
  decide +kernel

end Report

end Exemplar
