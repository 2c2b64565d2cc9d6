import MetricFacade.Command.Run
import MetricFacade.Proofs.Text.Lines

/-!
# Listings of violations

A listing is a line that counts the violations, and then a line for each with its message behind a
bullet. Tasks print one, in colours if they are wanted, and a build that fails carries one in its
failure. Colours are control sequences around the heading and the bullet. A terminal does not show
them, so what the heading and the bullet say is what is left of them on the terminal.

Results:

* `shown_control`, `shown_append`: what is left of a text on a terminal.
* `lists_violationReport`: what the tasks print lists the violations, with colours or without.
* `lists_listing`: so does what a build carries.
-/
namespace MetricFacade.Command

open Text

/-! ## On a terminal -/

/-- The characters that are shown. A control sequence goes from an escape character to an `m`. -/
def shownChars (inside : Bool) : List Char → List Char
  | [] => []
  | c :: rest =>
    if inside then shownChars (c != 'm') rest
    else if c = '\x1b' then shownChars true rest
    else c :: shownChars false rest

def shown (s : String) : String :=
  String.ofList (shownChars false s.toList)

/-- The text has no control sequence. -/
def Plain (s : String) : Prop :=
  '\x1b' ∉ s.toList

theorem Plain.append {s t : String} (hs : Plain s) (ht : Plain t) : Plain (s ++ t) := by
  rw [Plain, String.toList_append, List.mem_append, not_or]
  exact ⟨hs, ht⟩

theorem shownChars_inside {code : List Char} (h : 'm' ∉ code) (rest : List Char) :
    shownChars true (code ++ 'm' :: rest) = shownChars false rest := by
  induction code with
  | nil => rfl
  | cons c code ih =>
    rw [List.mem_cons, not_or] at h
    have hc : (c != 'm') = true := bne_iff_ne.2 (Ne.symm h.1)
    rw [List.cons_append, shownChars, if_pos rfl, hc, ih h.2]

theorem shownChars_append {cs : List Char} (h : '\x1b' ∉ cs) (rest : List Char) :
    shownChars false (cs ++ rest) = cs ++ shownChars false rest := by
  induction cs with
  | nil => rfl
  | cons c cs ih =>
    rw [List.mem_cons, not_or] at h
    rw [List.cons_append, shownChars, if_neg Bool.false_ne_true, if_neg (Ne.symm h.1), ih h.2,
      List.cons_append]

theorem shown_control {code : String} (h : 'm' ∉ code.toList) (s : String) :
    shown (control code ++ s) = shown s := by
  have hchars : (control code ++ s).toList = '\x1b' :: '[' :: (code.toList ++ 'm' :: s.toList) := by
    simp [control]
  rw [shown, hchars]
  exact congrArg _ (shownChars_inside h s.toList)

theorem shown_append {s : String} (h : Plain s) (t : String) : shown (s ++ t) = s ++ shown t := by
  rw [shown, String.toList_append, shownChars_append h, String.ofList_append, String.ofList_toList]
  rfl

theorem shown_plain {s : String} (h : Plain s) : shown s = s := by
  have hshown := shown_append h ""
  rwa [String.append_empty, show shown "" = "" from rfl, String.append_empty] at hshown

/-- Text that is painted is the same text on a terminal. -/
theorem shown_bold_red {s : String} (h : Plain s) : shown (bold (red s)) = s := by
  simp only [bold, red, String.append_assoc]
  rw [shown_control (by decide), shown_control (by decide), shown_append h,
    show shown (control "39" ++ control "0") = "" by decide, String.append_empty]

/-! ## Listings -/

/-- The text lists the violations: a line that counts them, and for each a line with its message
behind a bullet. -/
def Lists (colored : Bool) (vs : List Violation) (text : String) : Prop :=
  ∃ heading bullet, text = ended (heading :: vs.map fun v => bullet ++ v.message) ∧
    shown heading = "found " ++ toString vs.length ++ " invalid metric declaration"
      ++ (if vs.length = 1 then "" else "s") ∧
    shown bullet = "  " ++ (if colored then "✗" else "-") ++ " " ∧
    (colored = false → heading = shown heading ∧ bullet = shown bullet)

theorem plain_toString (n : Nat) : Plain (toString n) := by
  rw [Plain, Nat.toString_eq_ofList_toDigits, String.toList_ofList]
  intro h
  have hdigit := (Number.allDigits_toDigits n).digit _ h
  cases hdigit

theorem plain_heading (n : Nat) : Plain (Violation.heading n) := by
  have hfound : Plain "found " := by unfold Plain; decide
  have hwhat : Plain " invalid metric declaration" := by unfold Plain; decide
  have hplural : Plain (if n = 1 then "" else "s") := by
    unfold Plain
    split <;> decide
  exact ((hfound.append (plain_toString n)).append hwhat).append hplural

/-- **What is printed lists the violations.** -/
theorem lists_violationReport (colored : Bool) (vs : List Violation) :
    Lists colored vs (violationReport colored vs) := by
  have hprinted : violationReport colored vs =
      ended ((if colored then bold (red (Violation.heading vs.length))
          else Violation.heading vs.length) ::
        vs.map fun v => "  " ++ (if colored then red "✗" else "-") ++ " " ++ v.message) := by
    rw [violationReport, ended_cons, ended, List.map_map]
    rfl
  have hheading := plain_heading vs.length
  refine ⟨_, _, hprinted, ?_, ?_, ?_⟩
  · cases colored with
    | false => exact shown_plain hheading
    | true => exact shown_bold_red hheading
  · cases colored <;> decide
  · rintro rfl
    exact ⟨(shown_plain hheading).symm, by decide⟩

/-- The lines of a listing without colours. -/
def listed (vs : List Violation) : List String :=
  Violation.heading vs.length :: vs.map fun v => "  - " ++ v.message

theorem join_led (texts : List String) :
    String.join (texts.map ("\n" ++ ·)) ++ "\n" = "\n" ++ ended texts := by
  induction texts with
  | nil => rfl
  | cons text rest ih =>
    rw [List.map_cons, String.join_cons, String.append_assoc, ih, ended_cons]
    simp only [String.append_assoc]

theorem listing_ended (vs : List Violation) :
    Violation.listing vs ++ "\n" = ended (listed vs) := by
  have hled := join_led (vs.map fun v => "  - " ++ v.message)
  have hline : (fun v : Violation => "\n  - " ++ v.message) =
      ("\n" ++ ·) ∘ fun v => "  - " ++ v.message := by
    funext v
    show "\n" ++ "  - " ++ v.message = "\n" ++ ("  - " ++ v.message)
    exact String.append_assoc
  rw [List.map_map, ← hline] at hled
  rw [Violation.listing, String.append_assoc, hled, listed, ended_cons, String.append_assoc]

/-- A failure lists what is printed without colours. -/
theorem lists_listing (vs : List Violation) : Lists false vs (Violation.listing vs ++ "\n") := by
  have hheading := shown_plain (plain_heading vs.length)
  rw [listing_ended]
  exact ⟨_, "  - ", rfl, hheading, by decide, fun _ => ⟨hheading.symm, by decide⟩⟩

end MetricFacade.Command
