import Ingest.Proofs.CommandLine.Looking
/-!
# Tools that start up

A tool gets under way when the machine starts the workers that its environment asks for, and when no
name that the settings file gives a value to would hold a zero character.  Otherwise it breaks off
before it has read its arguments.
-/

namespace Ingest.CommandLine

open World Dialogue

/-! ## Numbers of workers -/

def digitsBehind (n : Nat) (ds : List Char) : Nat :=
  ds.foldl (fun n d => n * 10 + (d.toNat - 48)) n

theorem le_digitsBehind (n : Nat) (ds : List Char) : n ≤ digitsBehind n ds := by
  induction ds generalizing n with
  | nil => exact Nat.le_refl n
  | cons d ds ih => exact Nat.le_trans (by omega) (ih (n * 10 + (d.toNat - 48)))

theorem readDigits_eq_ok_iff {n m : Nat} {cs : List Char} (hn : n ≤ maxCount) :
    readDigits n cs = .ok m ↔
      (∀ c ∈ cs, c.isDigit = true) ∧ digitsBehind n cs = m ∧ m ≤ maxCount := by
  induction cs generalizing n with
  | nil =>
      simp only [readDigits, digitsBehind, List.foldl_nil, Except.ok.injEq]
      constructor
      · rintro rfl
        exact ⟨by simp, rfl, hn⟩
      · exact fun h => h.2.1
  | cons c cs ih =>
      rw [readDigits, List.forall_mem_cons]
      cases hc : c.isDigit with
      | false => simp
      | true =>
          simp only [if_true, true_and]
          split
          · exact ih ‹_›
          · rename_i hlarge
            have hle := le_digitsBehind (n * 10 + (c.toNat - 48)) cs
            refine iff_of_false (fun h => by cases h) fun ⟨_, hvalue, hm⟩ => hlarge ?_
            exact Nat.le_trans hle (Nat.le_trans (Nat.le_of_eq hvalue) hm)

/-- A text names a number of workers: digits, perhaps after a plus sign, that are worth more than
zero and no more than a machine can count. -/
structure IsCount (text : String) (n : Nat) : Prop where
  digits : ∃ ds, (text.toList = ds ∨ text.toList = '+' :: ds) ∧ ds ≠ [] ∧
    (∀ d ∈ ds, d.isDigit = true) ∧ digitsBehind 0 ds = n
  pos : 0 < n
  le_maxCount : n ≤ maxCount

theorem unsigned_eq_or (cs : List Char) : cs = unsigned cs ∨ cs = '+' :: unsigned cs := by
  unfold unsigned
  split <;> simp

theorem unsigned_of_digits {ds : List Char} (hdigits : ∀ d ∈ ds, d.isDigit = true) :
    unsigned ds = ds := by
  unfold unsigned
  split
  · exact absurd (hdigits '+' List.mem_cons_self) (by decide)
  · rfl

theorem unsigned_plus {ds : List Char} (hne : ds ≠ []) : unsigned ('+' :: ds) = ds := by
  cases ds with
  | nil => exact absurd rfl hne
  | cons d ds => rfl

theorem readCount_eq_ok_iff {text : String} {n : Nat} :
    readCount text = .ok n ↔ IsCount text n := by
  have hread : ∀ m, readDigits 0 (unsigned text.toList) = .ok m ↔
      (∀ c ∈ unsigned text.toList, c.isDigit = true) ∧
        digitsBehind 0 (unsigned text.toList) = m ∧ m ≤ maxCount := fun m =>
    readDigits_eq_ok_iff (Nat.zero_le maxCount)
  constructor
  · intro h
    rw [readCount] at h
    split at h
    · cases h
    rename_i hne
    split at h
    · cases h
    rename_i m hm
    split at h
    · cases h
    rename_i hzero
    obtain rfl := Except.ok.inj h
    obtain ⟨hdigits, hvalue, hmax⟩ := (hread m).1 hm
    refine ⟨⟨unsigned text.toList, unsigned_eq_or _, fun hnil => hne ?_, hdigits, hvalue⟩,
      Nat.pos_of_ne_zero hzero, hmax⟩
    rcases unsigned_eq_or text.toList with htext | htext
    · rw [htext, hnil]
      rfl
    · rw [hnil] at htext
      rw [htext] at hnil
      cases hnil
  · rintro ⟨⟨ds, htext, hne, hdigits, hvalue⟩, hpos, hmax⟩
    have hunsigned : unsigned text.toList = ds := by
      rcases htext with htext | htext
      · rw [htext, unsigned_of_digits hdigits]
      · rw [htext, unsigned_plus hne]
    have hempty : text.toList.isEmpty = false := by
      rcases htext with htext | htext <;> simp [htext, hne]
    rw [readCount, hempty, (hread n).2 (hunsigned ▸ ⟨hdigits, hvalue, hmax⟩)]
    exact if_neg (Nat.ne_of_gt hpos)

/-! ## Settings -/

/-- The settings file gives no value to a name if it would hold a zero character, and only then. -/
theorem give_eq_error_iff {environment : Settings.Variables} {name value : String}
    {what : Settings.Unsettable} :
    Settings.give environment name value = .error what ↔
      environment.lookup name = none ∧ '\x00' ∈ value.toList ∧ what = ⟨name, value⟩ := by
  unfold Settings.give
  split
  · rename_i hsome
    exact iff_of_false (by simp) fun ⟨hnone, _⟩ => by simp [hnone] at hsome
  · rename_i hnone
    split
    · rename_i hzero
      rw [Except.error.injEq]
      constructor
      · rintro rfl
        exact ⟨Option.not_isSome_iff_eq_none.1 hnone, List.contains_iff_mem.1 hzero, rfl⟩
      · exact fun h => h.2.2.symm
    · rename_i hzero
      exact iff_of_false (by simp) fun h => hzero (List.contains_iff_mem.2 h.2.1)

theorem lookup_of_give {environment given : Settings.Variables} {name value other : String}
    (h : Settings.give environment name value = .ok given) (hother : given.lookup other = none) :
    environment.lookup other = none := by
  unfold Settings.give at h
  split at h
  · exact Except.ok.inj h ▸ hother
  · split at h
    · cases h
    · rw [← Except.ok.inj h, List.lookup_append, Option.or_eq_none_iff] at hother
      exact hother.1

/-- What the settings file cannot give is a value with a zero character, for a name that has no
value in the environment. -/
theorem unsettable_of_load {environment known : Settings.Variables}
    {lines : List (Option (List Char))} {what : Settings.Unsettable}
    (h : Settings.load environment known lines = .error what) :
    environment.lookup what.name = none ∧ '\x00' ∈ what.value.toList := by
  induction lines generalizing environment known with
  | nil => cases h
  | cons line lines ih =>
      cases line with
      | none => cases h
      | some cs =>
          rw [Settings.load] at h
          split at h
          · cases h
          · exact ih h
          · rename_i name value _
            cases hgive : Settings.give environment name value with
            | error what' =>
                rw [hgive] at h
                obtain rfl := Except.error.inj h
                obtain ⟨hnone, hzero, rfl⟩ := give_eq_error_iff.1 hgive
                exact ⟨hnone, hzero⟩
            | ok given =>
                rw [hgive] at h
                obtain ⟨hnone, hzero⟩ := ih h
                exact ⟨lookup_of_give hgive hnone, hzero⟩

/-! ## Starting up -/

section StartingUp

variable {σ : Type} (peer : Peer Request Reply σ) (s : σ)

/-- The number of workers that the environment asks for, if it asks for any. -/
inductive Wants (environment : Settings.Variables) : Option Nat → Prop
  | any (hnone : environment.lookup workersVariable = none) : Wants environment none
  | count {value : String} {n : Nat} (hvalue : environment.lookup workersVariable = some value)
      (hcount : IsCount value n) : Wants environment (some n)

inductive Settles (environment : Settings.Variables) : Settings.Variables → Prop
  | alone (hnone : (peer.reply s .readSettings).1 = none) : Settles environment environment
  | file {bytes : Bytes} {settled : Settings.Variables}
      (hsome : (peer.reply s .readSettings).1 = some bytes)
      (hsettled : Settings.extend environment bytes = .ok settled) : Settles environment settled

/-- The machine starts the workers that the environment asks for, and the settings file can be
added to the environment. -/
structure StartsUp (environment settled : Settings.Variables) : Prop where
  workers : ∃ count, Wants environment count ∧ (peer.reply s (.startWorkers count)).1 = .ok ()
  settings : Settles peer s environment settled

variable {peer s} {environment settled : Settings.Variables}

theorem wantedWorkers_eq_ok_iff {count : Option Nat} :
    wantedWorkers environment = .ok count ↔ Wants environment count := by
  unfold wantedWorkers
  constructor
  · intro h
    split at h
    · rename_i hnone
      exact Except.ok.inj h ▸ .any hnone
    · rename_i value hvalue
      split at h
      · rename_i n hn
        exact Except.ok.inj h ▸ .count hvalue (readCount_eq_ok_iff.1 hn)
      · cases h
  · rintro (hnone | ⟨hvalue, hcount⟩)
    · simp only [hnone]
    · simp only [hvalue, readCount_eq_ok_iff.2 hcount]

theorem looks_startUp (hpeer : KeptByLooking peer) (h : StartsUp peer s environment settled) :
    Looks peer s (startUp environment) (.ok settled) := by
  obtain ⟨⟨count, hwants, hstarted⟩, hsettings⟩ := h
  have hworkers : Looks peer s (startWorkers environment) (.ok ()) := by
    rw [startWorkers, wantedWorkers_eq_ok_iff.2 hwants]
    refine .ask hpeer rfl ?_
    rw [hstarted]
    exact .done _
  refine hworkers.bind (.ask hpeer rfl ?_)
  cases hsettings with
  | alone hnone =>
      rw [hnone]
      exact .done _
  | file hsome hsettled =>
      simp only [hsome, hsettled]
      exact .done _

theorem looks_breakdown (hpeer : KeptByLooking peer)
    (h : ∀ settled, ¬StartsUp peer s environment settled) :
    ∃ breakdown, Looks peer s (startUp environment) (.error breakdown) := by
  cases hwanted : wantedWorkers environment with
  | error breakdown =>
      have hworkers : Looks peer s (startWorkers environment) (.error breakdown) := by
        rw [startWorkers, hwanted]
        exact .done _
      exact ⟨breakdown, hworkers.bind (.done _)⟩
  | ok count =>
      have hworkers : Looks peer s (startWorkers environment)
          (Except.mapError .workers (peer.reply s (.startWorkers count)).1) := by
        rw [startWorkers, hwanted]
        exact .ask hpeer rfl (.done _)
      cases hstarted : (peer.reply s (.startWorkers count)).1 with
      | error cause =>
          rw [hstarted] at hworkers
          exact ⟨.workers cause, hworkers.bind (.done _)⟩
      | ok started =>
          rw [hstarted] at hworkers
          have hnot : ∀ settled, ¬Settles peer s environment settled := fun settled hsettings =>
            h settled ⟨⟨count, wantedWorkers_eq_ok_iff.1 hwanted, hstarted⟩, hsettings⟩
          cases hfile : (peer.reply s .readSettings).1 with
          | none => exact absurd (.alone hfile) (hnot environment)
          | some bytes =>
              cases hextend : Settings.extend environment bytes with
              | ok settled => exact absurd (.file hfile hextend) (hnot settled)
              | error what =>
                  refine ⟨.setting what, hworkers.bind (.ask hpeer rfl ?_)⟩
                  simp only [hfile, hextend]
                  exact .done _

end StartingUp

end Ingest.CommandLine
