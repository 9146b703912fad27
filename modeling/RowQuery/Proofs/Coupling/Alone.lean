/-
# One execution by itself

An execution coupled with itself. There is nothing to compare then, and what the
coupling says is about the one execution: it gives back the frame that it was
started in, whatever it ends with, and it leaves the ledger as fetching tables
leaves it.

The loader may be any: what it answers is not asked to be what it answered
before.

Key definitions: `Leaves`, `Coupling.alone`.
Key theorems: `alone_executors`, `Coupled.leaves`.
-/
import RowQuery.Proofs.Coupling.Engine

namespace RowQuery

open List

/-- An action leaves a ledger of one kind, and of another kind if a table is not loaded. It breaks
off only at disordered keys, and only where there may be sort keys. -/
def Leaves {α : Type} (sorts : Prop) (kept : Ledger → Prop) (failed : LoadError → Ledger → Prop) :
    Except Failure α → Ledger → Prop
  | .ok _, l => kept l
  | .error (.load e), l => failed e l
  | .error (.disorder keys), l => sorts ∧ Disordered keys ∧ kept l

namespace Coupling

/-- The coupling of an execution with itself, of which ledgers of a kind are kept. -/
def alone (sorts : Prop) (kept : Ledger → Prop) (failed : LoadError → Ledger → Prop) :
    Coupling where
  value := (· = ·)
  scopes := Forall₂ (ScopeLike (· = ·))
  ledger l l' := l = l' ∧ kept l
  failure e e' l l' := (e = e' ∧ l = l') ∧ failed e l
  table _ := True
  sorts := sorts
  identity := True
  ambient := True

variable {sorts : Prop} {kept : Ledger → Prop} {failed : LoadError → Ledger → Prop}

theorem alone_lawful : (alone sorts kept failed).Lawful :=
  lawful_of_eq (fun _ _ h => h) (fun _ _ => rfl) rfl

/-- A statement may have anything in it, sort keys if these may be. -/
theorem alone_admits {features : List Feature} (h : .sortKey ∈ features → sorts) :
    (alone sorts kept failed).AdmitsAll features :=
  fun _ hx => admits_of_unrestricted (fun _ => trivial) trivial trivial (fun heq => h (heq ▸ hx))
    fun _ _ => rfl

theorem alone_rows (rows : List Record) : (alone sorts kept failed).Rows rows rows :=
  rows_refl (fun _ => rfl) rows

theorem alone_frames (f : Frame) (sheltered : Bool) :
    (alone sorts kept failed).Frames sheltered f f where
  outer := alone_rows f.outer
  scopes := scopes_refl (fun _ => rfl) f.scopes
  population _ := by
    cases f.population with
    | none => exact .none
    | some rows => exact .some (alone_rows rows)

/-- An executor corresponds to itself, if fetching a table leaves a ledger as an action may. -/
theorem alone_executors {executor : Executor}
    (h : ∀ (l : Ledger) kind name, kept l →
      Leaves sorts kept failed ((l.fetch executor kind name).1.mapError .load)
        (l.fetch executor kind name).2) :
    (alone sorts kept failed).Executors executor executor := by
  refine executors_of_fetch rfl rfl rfl (.inl rfl) ?_
  rintro kind name l _ ⟨rfl, hl⟩
  have hfetch := h l kind name hl
  generalize l.fetch executor kind name = x at hfetch ⊢
  obtain ⟨result, l'⟩ := x
  cases result with
  | ok rows => exact .ok (alone_rows rows) ⟨rfl, hfetch⟩
  | error e => exact .error ⟨⟨rfl, rfl⟩, hfetch⟩

/-- **What an action that is coupled with itself leaves behind**: the frame that it was started in,
and a ledger of the kind that is kept. -/
theorem Coupled.leaves {α : Type} {A : α → α → Prop} {m : Exec α} {s : Session}
    (h : (alone sorts kept failed).Coupled s.frame s.frame A m m) (hs : kept s.ledger) :
    (m.run.run s).2.frame = s.frame ∧
      Leaves sorts kept failed (m.run.run s).1 (m.run.run s).2.ledger := by
  have hends := h s s rfl rfl ⟨rfl, hs⟩
  generalize m.run.run s = x at hends ⊢
  cases hends with
  | ok _ hframes hledger => exact ⟨hframes.1, hledger.2⟩
  | error hframes hfailure =>
    cases hfailure with
    | load hfailure => exact ⟨hframes.1, hfailure.2⟩
    | disorder hsorts hdisordered _ hledger =>
      exact ⟨hframes.1, hsorts, hdisordered, hledger.2⟩

end Coupling

end RowQuery
