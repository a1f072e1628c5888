import Attribution.Text.Basic

/-!
# Messages and their catalogue

The texts shown to a user are looked up in a catalogue before the places in them are filled.

- `Message`: a text with places, and what goes into them.
- `Message.fill`: a text with its places filled.
- `Catalogue`: where the texts come from; the masking one hides every text, and with it its places.
- `Catalogue.render`: a message in the words of a catalogue.
-/

namespace Attribution

/-- What is to be said: a text as it is, or a text from the catalogue with arguments for the places
marked `%s` in it. -/
inductive Message
  | verbatim (t : Text)
  | template (t : Text) (arguments : List Text)

/-- The text with its places filled in order; there must be as many arguments as places. -/
def Message.fill : Text → List Text → Option Text
  | [], [] => some []
  | [], _ :: _ => none
  | '%' :: 's' :: rest, argument :: others => (fill rest others).map (argument ++ ·)
  | '%' :: 's' :: _, [] => none
  | c :: rest, arguments => (fill rest arguments).map (c :: ·)

/-- Where the texts of messages come from. -/
inductive Catalogue
  | plain
  | masked
deriving DecidableEq

namespace Catalogue

/-- What the masking catalogue has in place of every text. -/
def mask : Text := "# GETTEXT POISON #".toList

/-- The name of the variable that turns the masking catalogue on. -/
def maskVariable : Text := "GIT_TEST_GETTEXT_POISON".toList

/-- The catalogue's text for a text. -/
def text : Catalogue → Text → Text
  | plain, t => t
  | masked, _ => mask

/-- The message in the words of the catalogue, if its arguments fit the catalogue's text. A message
without arguments is not searched for places. -/
def render (c : Catalogue) : Message → Option Text
  | .verbatim t => some t
  | .template t [] => some (c.text t)
  | .template t arguments => Message.fill (c.text t) arguments

end Catalogue

end Attribution
