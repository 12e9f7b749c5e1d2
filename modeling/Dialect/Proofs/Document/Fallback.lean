import Dialect.Document
import Dialect.Proofs.Json.Refusal
import Dialect.Proofs.Toml.Refusal
import Dialect.Proofs.Yaml.Building

namespace Dialect.Document

-- What the reader of a format makes of a text. Text that is not JSON is read as YAML.
def reading (f : Format) (text : String) : Except ReadFault Value :=
  match f with
  | .json => match Json.read text with
    | .error .malformed => Yaml.read text
    | r => r
  | .yaml => Yaml.read text
  | .toml => Toml.read text

theorem readAs_eq (f : Format) (text : String) : readAs f text = orText text (reading f text) := by
  match f with
  | .json =>
      dsimp only [readAs, reading]
      match Json.read text with
      | .ok _ => rfl
      | .error .malformed => rfl
      | .error (.refused _) => rfl
  | .yaml => rfl
  | .toml => rfl

-- What a text has that its reader can neither build nor take for plain text.
inductive Snag (text : String) : Format → Error → Prop where
  | json {e : Error} (h : Overlong Text.isAsciiDigit text.toList e) : Snag text .json e
  | notJson {e : Error} (hjson : Json.read text = .error .malformed)
      (h : Yaml.Refuses text.toList e) : Snag text .json e
  | yaml {e : Error} (h : Yaml.Refuses text.toList e) : Snag text .yaml e
  | toml {e : Error} (h : Overlong Toml.isNumeral text.toList e) : Snag text .toml e

theorem reading_meets (f : Format) (text : String) :
    Meets (Snag text f) (fun _ => True) (reading f text) := by
  have hyaml := Yaml.read_meets text
  match f with
  | .json =>
      have hjson := Json.read_meets text
      dsimp only [reading]
      match h : Json.read text, hjson with
      | .ok _, _ => exact trivial
      | .error .malformed, _ => exact hyaml.imp (fun _ he => .notJson h he) fun _ _ => trivial
      | .error (.refused e), he => exact .json he
  | .yaml => exact hyaml.imp (fun _ he => .yaml he) fun _ _ => trivial
  | .toml => exact (Toml.read_meets text).imp (fun _ he => .toml he) fun _ _ => trivial

theorem read_eq (format : Option Format) (contentType : Option String) (text : String) :
    read (format.map Format.name) contentType text =
      readAs (format.getD (Format.detect contentType text)) text := by
  cases format with
  | none => rfl
  | some f => cases f <;> rfl

namespace Sample

def isMonthFault : Except ReadFault Value → Bool
  | .error (.refused (.moment .month)) => true
  | _ => false

-- The text looks like a date, but a year has no thirteenth month.
theorem read_month : Yaml.read "2023-13-01" = .error (.refused (.moment .month)) := by
  have hmonth : isMonthFault (Yaml.read "2023-13-01") = true := by decide +kernel
  unfold isMonthFault at hmonth
  split at hmonth
  next hread => exact hread
  next => cases hmonth

end Sample

end Dialect.Document
