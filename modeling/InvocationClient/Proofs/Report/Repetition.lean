import InvocationClient.Proofs.Report.Entry
import Mathlib.Algebra.BigOperators.Group.List.Basic
import Mathlib.Algebra.GroupWithZero.Nat
import Mathlib.Data.List.Forall2
import Mathlib.Data.List.SplitBy

/-! # Repetitions in a trace

A trace falls into runs of frames at one place, in one way only. Each run is shown by itself: its
first three frames, then the number of those that are left. So every frame is shown or counted, and
where a run ends the trace can be cut in two.
-/

namespace InvocationClient

/-- Where a frame lies, whatever the text of its line. -/
def Frame.place (f : Frame) : String × Int × String := (f.file, f.line, f.function)

namespace Trace

/-- The stretches of a trace that lie at one place each, none of which can be made longer. -/
structure AreRuns (frames : List Frame) (runs : List (List Frame)) : Prop where
  flatten : runs.flatten = frames
  nonempty : ∀ run ∈ runs, run ≠ []
  same : ∀ run ∈ runs, ∀ f ∈ run, ∀ g ∈ run, f.place = g.place
  maximal : runs.IsChain fun run next => ∀ f ∈ run, ∀ g ∈ next, f.place ≠ g.place

/-- What an entry of a trace stands for: a frame, or a number of frames that are left out. -/
inductive Item where
  | frame (f : Frame)
  | repeated (count : Nat)

namespace Item

inductive Shows : Item → String → Prop where
  | frame {f : Frame} {entry : String} : f.Shows entry → Shows (frame f) entry
  | once : Shows (repeated 1) "  [Previous line repeated 1 more time]"
  | often {count : Nat} : count ≠ 1 →
      Shows (repeated count) ("  [Previous line repeated " ++ toString count ++ " more times]")

def size : Item → Nat
  | frame _ => 1
  | repeated count => count

end Item

def items (run : List Frame) : List Item :=
  (run.take 3).map .frame ++ if 3 < run.length then [.repeated (run.length - 3)] else []

def Lists (frames : List Frame) (entries : List String) : Prop :=
  ∃ runs, AreRuns frames runs ∧ List.Forall₂ Item.Shows (runs.flatMap items) entries

variable {frames run before behind : List Frame} {runs : List (List Frame)} {f g last : Frame}
  {count : Nat}

section Runs

theorem samePlace_iff : f.samePlace g = true ↔ f.place = g.place := by
  simp [Frame.samePlace, Frame.place, and_assoc]

theorem isChain_samePlace_iff :
    (run.IsChain fun f g => f.samePlace g = true) ↔
      ∀ f ∈ run, ∀ g ∈ run, f.place = g.place := by
  have : Std.Symm fun f g : Frame => f.place = g.place := ⟨fun _ _ => Eq.symm⟩
  have : Trans (fun f g : Frame => f.place = g.place) (fun f g : Frame => f.place = g.place)
      (fun f g : Frame => f.place = g.place) := ⟨Eq.trans⟩
  simp only [samePlace_iff, List.isChain_iff_pairwise]
  constructor
  · intro h f hf g hg
    exact h.forall_of_forall (R := fun f g => f.place = g.place) (fun _ _ => rfl) hf hg
  · intro h
    exact List.pairwise_of_forall_mem_list h

/-- Next to each other, two runs differ in place if the end of one and the head of the other do. -/
theorem ends_samePlace_iff {next : List Frame} (hr : run ≠ []) (hn : next ≠ [])
    (hs : ∀ f ∈ run, ∀ g ∈ run, f.place = g.place)
    (hs' : ∀ f ∈ next, ∀ g ∈ next, f.place = g.place) :
    (∃ hr hn, (run.getLast hr).samePlace (next.head hn) = false) ↔
      ∀ f ∈ run, ∀ g ∈ next, f.place ≠ g.place := by
  have hl := List.getLast_mem hr
  have hh := List.head_mem hn
  simp only [Bool.eq_false_iff, ne_eq, samePlace_iff]
  constructor
  · rintro ⟨hr, hn, hd⟩ f hf g hg he
    exact hd (by rw [hs _ hl f hf, he, hs' g hg _ hh])
  · intro h
    exact ⟨hr, hn, h _ hl _ hh⟩

theorem areRuns_iff : AreRuns frames runs ↔ frames.splitBy Frame.samePlace = runs := by
  rw [List.splitBy_eq_iff]
  constructor
  · intro h
    refine ⟨h.flatten.symm, fun hn => h.nonempty [] hn rfl,
      fun run hr => isChain_samePlace_iff.mpr (h.same run hr), ?_⟩
    refine h.maximal.imp_of_mem_imp fun run next hr hn => ?_
    exact (ends_samePlace_iff (h.nonempty _ hr) (h.nonempty _ hn) (h.same _ hr) (h.same _ hn)).mpr
  · rintro ⟨hf, hn, hs, hm⟩
    have hn : ∀ run ∈ runs, run ≠ [] := fun run hr he => hn (he ▸ hr)
    have hs : ∀ run ∈ runs, ∀ f ∈ run, ∀ g ∈ run, f.place = g.place := fun run hr =>
      isChain_samePlace_iff.mp (hs run hr)
    refine ⟨hf.symm, hn, hs, hm.imp_of_mem_imp fun run next hr hn' => ?_⟩
    exact (ends_samePlace_iff (hn _ hr) (hn _ hn') (hs _ hr) (hs _ hn')).mp

end Runs

section Entries

def Item.text : Item → String
  | frame f => f.entry
  | repeated count => repetition count

theorem repetition_of_ne (h : count ≠ 1) :
    repetition count = "  [Previous line repeated " ++ toString count ++ " more times]" := by
  unfold repetition
  simp only [if_neg h, String.append_assoc]
  rfl

theorem Item.shows_iff {item : Item} {entry : String} : item.Shows entry ↔ entry = item.text := by
  constructor
  · intro h
    cases h with
    | frame hf => exact hf.eq_entry
    | once => decide +kernel
    | often hn => exact (repetition_of_ne hn).symm
  · rintro rfl
    cases item with
    | frame f => exact .frame f.shows_entry
    | repeated count =>
      by_cases h : count = 1
      · subst h
        exact .once
      · rw [text, repetition_of_ne h]
        exact .often h

theorem forall₂_shows_iff {items : List Item} {entries : List String} :
    List.Forall₂ Item.Shows items entries ↔ entries = items.map Item.text := by
  have hs : Item.Shows = fun item entry => item.text = entry := by
    funext item entry
    exact propext (Item.shows_iff.trans eq_comm)
  rw [hs, ← List.forall₂_map_left_iff, List.forall₂_eq_eq_eq, eq_comm]

theorem map_text_items (run : List Frame) :
    (items run).map Item.text = (run.take shown).map Frame.entry ++ closeRun run.length := by
  rw [items, List.map_append, List.map_map, closeRun, apply_ite (List.map Item.text),
    List.map_singleton]
  rfl

theorem splitBy_of_same (hr : run ≠ []) (hs : ∀ f ∈ run, f.place = last.place) :
    run.splitBy Frame.samePlace = [run] := by
  refine List.splitBy_of_isChain hr (isChain_samePlace_iff.mpr fun f hf g hg => ?_)
  rw [hs f hf, hs g hg]

/-- In the middle of a trace, with all runs but the last shown and that one shown as far as it goes,
what is still to come completes it. -/
theorem take_append_entriesFrom (hr : run ≠ []) (hs : ∀ f ∈ run, f.place = last.place)
    (behind : List Frame) :
    (run.take shown).map Frame.entry ++ entriesFrom last run.length behind =
      ((run ++ behind).splitBy Frame.samePlace).flatMap fun run => (items run).map Item.text := by
  induction behind generalizing run last with
  | nil =>
    rw [entriesFrom, List.append_nil, splitBy_of_same hr hs, List.flatMap_singleton, map_text_items]
  | cons f behind ih =>
    rw [entriesFrom]
    by_cases hf : last.samePlace f = true
    · -- The run goes on; its frame is shown if it is among the first three.
      have hn : run ++ [f] ≠ [] := by simp
      have hs' : ∀ g ∈ run ++ [f], g.place = f.place := by
        intro g hg
        rcases List.mem_append.mp hg with hg | hg
        · rw [hs g hg, samePlace_iff.mp hf]
        · rw [List.mem_singleton.mp hg]
      have ih := ih hn hs'
      rw [List.append_assoc, List.singleton_append, List.length_append, List.length_singleton] at ih
      rw [if_pos hf, ← ih]
      by_cases hl : run.length < shown
      · rw [if_pos hl, List.take_of_length_le (Nat.le_of_lt hl), List.take_of_length_le (by simpa)]
        simp
      · rw [if_neg hl, List.take_append_of_le_length (Nat.not_lt.mp hl)]
    · -- The run is over, and a run begins with the frame.
      have hd : ∀ g ∈ run.getLast?, ∀ f' ∈ (f :: behind).head?, g.samePlace f' = false := by
        rintro g hg f' ⟨⟩
        have hg := hs g (List.mem_of_getLast? hg)
        rw [Bool.eq_false_iff]
        exact fun h => hf (samePlace_iff.mpr (by rw [← hg, samePlace_iff.mp h]))
      have ih : f.entry :: entriesFrom f 1 behind =
          ((f :: behind).splitBy Frame.samePlace).flatMap fun run => (items run).map Item.text :=
        ih (List.cons_ne_nil f []) (List.forall_mem_singleton.mpr rfl)
      rw [if_neg hf, List.splitBy_append hd, splitBy_of_same hr hs, List.flatMap_append,
        List.flatMap_singleton, map_text_items, List.append_assoc, ih]

theorem entries_eq_flatMap (frames : List Frame) :
    entries frames =
      (frames.splitBy Frame.samePlace).flatMap fun run => (items run).map Item.text := by
  cases frames with
  | nil => rfl
  | cons f frames =>
    exact take_append_entriesFrom (List.cons_ne_nil f []) (List.forall_mem_singleton.mpr rfl) frames

theorem entries_of_areRuns (h : AreRuns frames runs) :
    entries frames = (runs.flatMap items).map Item.text := by
  rw [entries_eq_flatMap, areRuns_iff.mp h, List.map_flatMap]

theorem sum_size_items (run : List Frame) : ((items run).map Item.size).sum = run.length := by
  have hc : (((run.take 3).map Item.frame).map Item.size).sum = min 3 run.length := by
    simp [Function.comp_def, Item.size]
  rw [items, List.map_append, List.sum_append, hc]
  split
  · simp [Item.size]
    omega
  · simp
    omega

theorem sum_size_of_areRuns (h : AreRuns frames runs) :
    ((runs.flatMap items).map Item.size).sum = frames.length := by
  rw [← h.flatten]
  clear h
  induction runs with
  | nil => rfl
  | cons run runs ih =>
    rw [List.flatMap_cons, List.map_append, List.sum_append, sum_size_items, ih, List.flatten_cons,
      List.length_append]

theorem lists_iff {es : List String} : Lists frames es ↔ es = entries frames := by
  constructor
  · rintro ⟨runs, hr, hs⟩
    rw [entries_of_areRuns hr, forall₂_shows_iff.mp hs]
  · rintro rfl
    have hr : AreRuns frames (frames.splitBy Frame.samePlace) := areRuns_iff.mpr rfl
    exact ⟨_, hr, forall₂_shows_iff.mpr (entries_of_areRuns hr)⟩

theorem Item.Shows.getLast?_ne {item : Item} {entry : String} (h : item.Shows entry) :
    entry.toList.getLast? ≠ some '\n' := by
  cases h with
  | frame hf => exact hf.getLast?_ne
  | once => simp
  | often => rw [String.toList_append, List.getLast?_append]; simp

/-- Where neither side of a cut goes on in the other, each is shown by itself. -/
theorem entries_append
    (h : ∀ f ∈ before.getLast?, ∀ g ∈ behind.head?, f.place ≠ g.place) :
    entries (before ++ behind) = entries before ++ entries behind := by
  have hd : ∀ f ∈ before.getLast?, ∀ g ∈ behind.head?, f.samePlace g = false := by
    intro f hf g hg
    rw [Bool.eq_false_iff]
    exact fun he => h f hf g hg (samePlace_iff.mp he)
  simp only [entries_eq_flatMap, List.splitBy_append hd, List.flatMap_append]

end Entries

end Trace

end InvocationClient
