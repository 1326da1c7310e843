import PageFilters.Filter
import PageFilters.Proofs.Html.Tags
import PageFilters.Proofs.Output
import PageFilters.Proofs.Text.Boundaries
import PageFilters.Proofs.Text.Hex

/-!
# The line of an address

Of an address its line shows a digest and nothing else: sixty-four digits in
the middle of it, around which everything stays as it is.  The text behind the
image is escaped.  So neither an address nor a text decides where a tag or an
attribute begins, in the line or in what stands around it.
-/

namespace PageFilters

/-- Octets of one length that differ within `count` octets from `start` on at
most. -/
structure AlikeBut (start count : Nat) (left right : Text.Bytes) : Prop where
  length : left.length = right.length
  same : ∀ position, position < start ∨ start + count ≤ position →
    left[position]? = right[position]?

namespace AlikeBut

variable {start count : Nat} {left right : Text.Bytes}

theorem of_parts {front back : Text.Bytes} (leftLength : left.length = count)
    (rightLength : right.length = count) :
    AlikeBut front.length count (front ++ left ++ back) (front ++ right ++ back) where
  length := by simp only [List.length_append, leftLength, rightLength]
  same position outside := by
    rw [List.append_assoc, List.append_assoc]
    rcases outside with before | behind
    · rw [List.getElem?_append_left before, List.getElem?_append_left before]
    · rw [List.getElem?_append_right (by omega), List.getElem?_append_right (by omega),
        List.getElem?_append_right (by omega), List.getElem?_append_right (by omega),
        leftLength, rightLength]

theorem behind (alike : AlikeBut start count left right) (written : Text.Bytes) :
    AlikeBut (written.length + start) count (written ++ left) (written ++ right) where
  length := by rw [List.length_append, List.length_append, alike.length]
  same position outside := by
    rcases Nat.lt_or_ge position written.length with before | reached
    · rw [List.getElem?_append_left before, List.getElem?_append_left before]
    · rw [List.getElem?_append_right reached, List.getElem?_append_right reached]
      exact alike.same _ (by omega)

theorem take (alike : AlikeBut start count left right) (room : Nat) :
    AlikeBut start count (left.take room) (right.take room) where
  length := by rw [List.length_take, List.length_take, alike.length]
  same position outside := by
    rw [List.getElem?_take, List.getElem?_take, alike.same position outside]

theorem fitting (alike : AlikeBut start count left right) (sink : Sink) :
    AlikeBut start count (sink.fitting left) (sink.fitting right) := by
  unfold Sink.fitting
  split
  next => exact alike
  next limit limited => exact alike.take _

/-- Texts that are alike are delivered with one outcome, and what has been
written is alike. -/
theorem deliver {sink : Sink} {text other : String}
    (alike : AlikeBut start count (Text.encode text.toList) (Text.encode other.toList)) :
    (sink.deliver [text]).1 = (sink.deliver [other]).1 ∧
      AlikeBut (sink.written.length + start) count (sink.deliver [text]).2.written
        (sink.deliver [other]).2.written := by
  have octets : ∀ single : String, Text.encodeAll [single] = Text.encode single.toList := by
    intro single
    simp [Text.encodeAll]
  rw [Sink.deliver_eq, Sink.deliver_eq, octets, octets]
  have room : sink.Holds (Text.encode text.toList) ↔ sink.Holds (Text.encode other.toList) := by
    rw [Sink.Holds, Sink.Holds, alike.length]
  constructor
  · simp only [room]
  · exact (alike.fitting sink).behind sink.written

end AlikeBut

namespace Avatar

structure IsDigest (digits : String) : Prop where
  length : digits.toList.length = 64
  hex : ∀ char ∈ digits.toList, char ∈ "0123456789abcdef".toList

theorem hash_eq (email : String) :
    hash email = Text.hex (Digest.sha256 (Text.encode (normalize email).toList)) :=
  rfl

theorem isDigest_hash (email : String) : IsDigest (hash email) := by
  rw [hash_eq]
  constructor
  · rw [Text.length_hex, Digest.length_sha256]
  · intro char member
    exact Text.hexDigit_of_mem_hex member

/-- What stands in front of the digits of an image. -/
def imageFront (baseUrl : String) : String :=
  "<img src='" ++ baseUrl

/-- What stands behind the digits of an image, and ends it. -/
def imageBack (size : UInt32) : String :=
  let edge := size.toNat.repr
  "?s=" ++ edge ++ "&amp;d=retro' width='" ++ edge ++ "' height='" ++ edge ++
    "' alt='Gravatar' /> "

/-- The image that is found under some digits. -/
def image (baseUrl : String) (size : UInt32) (digits : String) : String :=
  imageFront baseUrl ++ digits ++ imageBack size

/-- The trimmed text behind the image, escaped. -/
def caption (input : Text.Bytes) : String :=
  Html.escape (String.ofList (Text.trim (Text.decodeLossy input)))

/-- The line of an address: the image under its digest, the text and a line
feed. -/
def line (settings : Settings) (email : String) (input : Text.Bytes) : String :=
  image settings.avatarBaseUrl settings.avatarSize (hash email) ++ caption input ++ "\n"

theorem annotate_eq (email baseUrl : String) (size : UInt32) (input : Text.Bytes) :
    annotate email (String.ofList (Text.decodeLossy input)) baseUrl size =
      image baseUrl size (hash email) ++ caption input := by
  unfold annotate image imageFront imageBack caption
  rw [String.toList_ofList]
  simp only [String.append_assoc]

theorem emailFilter_eq {m : Type → Type} [Monad m] [Logs m] (settings : Settings)
    (email : String) (page : Option String) (input : Text.Bytes) (sink : Sink) :
    emailFilter (m := m) settings email page input sink = do
      Logs.tell (event page)
      return sink.deliver [line settings email input] := by
  simp only [emailFilter, annotate_eq, Sink.deliver_pair, line]

section Octets

variable {settings : Settings} {input : Text.Bytes}

theorem length_encode_digits {digits : String} (isDigest : IsDigest digits) :
    (Text.encode digits.toList).length = 64 := by
  have single : List.Forall (·.utf8Size = 1) "0123456789abcdef".toList := by
    decide
  rw [List.forall_iff_forall_mem] at single
  rw [Text.length_encode, ← isDigest.length]
  exact Text.size_eq_length fun char member => single char (isDigest.hex char member)

theorem alikeBut_line (email other : String) :
    AlikeBut (Text.encode (imageFront settings.avatarBaseUrl).toList).length 64
      (Text.encode (line settings email input).toList)
      (Text.encode (line settings other input).toList) := by
  have parts : ∀ address, Text.encode (line settings address input).toList =
      Text.encode (imageFront settings.avatarBaseUrl).toList ++
        Text.encode (hash address).toList ++
        Text.encode (imageBack settings.avatarSize ++ caption input ++ "\n").toList := by
    intro address
    simp only [line, image, String.toList_append, Text.encode_append, List.append_assoc]
  rw [parts, parts]
  exact .of_parts (length_encode_digits (isDigest_hash email))
    (length_encode_digits (isDigest_hash other))

end Octets

section Tags

open Html (ReadAlike Place IsEscaped)

theorem not_isSign_of_isAlphanum {char : Char} (alphanum : char.isAlphanum = true) :
    Html.isSign char = false := by
  have signs : ∀ sign ∈ [' ', '\t', '\n', '\x0c', '\r', '<', '>', '\x27', '\x22', '=', '/'],
      sign.isAlphanum = false := by
    simp
  apply Bool.eq_false_of_not_eq_true
  intro sign
  rw [Html.isSign, Html.isSpace, ← Bool.decide_or, decide_eq_true_eq, ← List.mem_append] at sign
  rw [signs char sign] at alphanum
  contradiction

theorem readAlike_digits {digits : String} (isDigest : IsDigest digits) :
    ReadAlike digits.toList ['0'] := by
  apply Html.readAlike_of_not_isSign
  · intro empty
    have length := isDigest.length
    rw [empty] at length
    contradiction
  · intro char member
    have alphanum : ∀ digit ∈ "0123456789abcdef".toList, digit.isAlphanum = true := by
      simp
    exact not_isSign_of_isAlphanum (alphanum char (isDigest.hex char member))

theorem readAlike_repr (number : Nat) : ReadAlike number.repr.toList ['0'] := by
  rw [Nat.toList_repr]
  apply Html.readAlike_of_not_isSign Nat.toDigits_ne_nil
  intro char member
  have digit := Nat.isDigit_of_mem_toDigits (by decide) (by decide) member
  exact not_isSign_of_isAlphanum (by rw [Char.isAlphanum, digit, Bool.or_true])

/-- The end of an image with edges of no length is read as any other one. -/
theorem readAlike_imageBack (size : UInt32) :
    ReadAlike (imageBack size).toList (imageBack 0).toList := by
  have edge := readAlike_repr size.toNat
  simp only [imageBack, String.toList_append]
  exact ((((((ReadAlike.refl _).append edge).append (.refl _)).append edge).append
    (.refl _)).append edge).append (.refl _)

/-- Digits and the end of an image, with zero for all the numbers in it. -/
def sample : List Char :=
  '0' :: (imageBack 0).toList

theorem readAlike_sample {digits : String} (isDigest : IsDigest digits) (size : UInt32) :
    ReadAlike (digits.toList ++ (imageBack size).toList) sample :=
  (readAlike_digits isDigest).append (readAlike_imageBack size)

/-- Behind an image stands text, unless all of it is between double quotes that
have been opened in front of it. -/
theorem behind_sample (place : Place) :
    place.behind sample = .text ∨ place.behind sample = .doubleQuoted := by
  cases place
  all_goals decide

theorem isEscaped_caption (input : Text.Bytes) : IsEscaped (caption input).toList := by
  rw [caption, Html.toList_escape]
  exact Html.isEscaped_flatMap _

/-- The text and the line feed are read as if they were not there. -/
theorem begun_caption {place : Place} (input : Text.Bytes)
    (inside : place = .text ∨ place = .doubleQuoted) :
    place.begun ((caption input).toList ++ ['\n']) = [] ∧
      place.behind ((caption input).toList ++ ['\n']) = place := by
  obtain ⟨nothing, same⟩ := (isEscaped_caption input).begun inside
  rw [Place.begun_append, Place.behind_append, nothing, same]
  rcases inside with rfl | rfl
  · exact ⟨rfl, rfl⟩
  · exact ⟨rfl, rfl⟩

/-- A line is read as an image with zero for all the numbers in it. -/
theorem readAlike_line (settings : Settings) (email : String) (input : Text.Bytes) :
    ReadAlike (line settings email input).toList
      ((imageFront settings.avatarBaseUrl).toList ++ sample) := by
  have parts : (line settings email input).toList =
      (imageFront settings.avatarBaseUrl).toList ++
        ((hash email).toList ++ (imageBack settings.avatarSize).toList) ++
        ((caption input).toList ++ ['\n']) := by
    simp only [line, image, String.toList_append, List.append_assoc]
    rfl
  have front := (ReadAlike.refl (imageFront settings.avatarBaseUrl).toList).append
    (readAlike_sample (isDigest_hash email) settings.avatarSize)
  -- In front of the text the reading is outside of the tag, wherever it has begun.
  rw [parts]
  apply front.append_silent
  intro place
  rw [Place.behind_append]
  exact begun_caption input (behind_sample _)

theorem begun_line {settings : Settings} (quoted : '\x27' ∉ settings.avatarBaseUrl.toList)
    (email : String) (input : Text.Bytes) :
    Place.text.begun (line settings email input).toList =
        [.tag, .attribute, .attribute, .attribute, .attribute] ∧
      Place.text.behind (line settings email input).toList = .text := by
  have stays : ∀ char ∈ settings.avatarBaseUrl.toList,
      Place.singleQuoted.step char = (none, .singleQuoted) := by
    intro char member
    have other : char ≠ '\x27' := fun quote => quoted (quote ▸ member)
    simp [Place.step, other]
  obtain ⟨nothing, same⟩ := Place.begun_of_stays stays
  have opened : Place.text.begun "<img src='".toList = [.tag, .attribute] ∧
      Place.text.behind "<img src='".toList = .singleQuoted := by
    decide
  have closed : Place.singleQuoted.begun sample = [.attribute, .attribute, .attribute] ∧
      Place.singleQuoted.behind sample = .text := by
    decide
  obtain ⟨begun, reached⟩ := readAlike_line settings email input .text
  rw [begun, reached, imageFront, String.toList_append]
  simp only [Place.begun_append, Place.behind_append, opened, nothing, same, closed,
    List.append_nil, List.cons_append, List.nil_append, and_self]

end Tags

end Avatar

/-- Of an address its line shows sixty-four digits that are made of its
normalized form, and the text behind the image is escaped.  So for any two
addresses the output differs in these digits at most, and no address and no
text changes which tags and attributes begin in a page.  Unless the configured
address closes the quotes around it, they are one tag with four attributes. -/
theorem emailFilter_discloses_digest_only {m : Type → Type} [Monad m] [Logs m]
    (settings : Settings) :
    (∀ (email : String) (page : Option String) (input : Text.Bytes) (sink : Sink),
      emailFilter (m := m) settings email page input sink = do
        Logs.tell (Avatar.event page)
        return sink.deliver
          [Avatar.image settings.avatarBaseUrl settings.avatarSize (Avatar.hash email) ++
            Avatar.caption input ++ "\n"]) ∧
    (∀ email,
      Avatar.hash email = Text.hex (Digest.sha256 (Text.encode (Avatar.normalize email).toList)) ∧
        Avatar.IsDigest (Avatar.hash email)) ∧
    (∀ input,
      Html.IsEscaped (Avatar.caption input).toList ∧
        Text.Trims (Text.decodeLossy input) (Html.decode (Avatar.caption input)).toList) ∧
    (∀ (email other : String) (input : Text.Bytes) (sink : Sink),
      (sink.deliver [Avatar.line settings email input]).1 =
          (sink.deliver [Avatar.line settings other input]).1 ∧
        AlikeBut
          (sink.written.length +
            (Text.encode (Avatar.imageFront settings.avatarBaseUrl).toList).length) 64
          (sink.deliver [Avatar.line settings email input]).2.written
          (sink.deliver [Avatar.line settings other input]).2.written) ∧
    (∀ (email other : String) (input otherInput : Text.Bytes),
      Html.ReadAlike (Avatar.line settings email input).toList
        (Avatar.line settings other otherInput).toList) ∧
    ('\x27' ∉ settings.avatarBaseUrl.toList → ∀ (email : String) (input : Text.Bytes),
      Html.Place.text.begun (Avatar.line settings email input).toList =
          [.tag, .attribute, .attribute, .attribute, .attribute] ∧
        Html.Place.text.behind (Avatar.line settings email input).toList = .text) := by
  refine ⟨Avatar.emailFilter_eq settings, ?_, ?_, ?_, ?_, ?_⟩
  · intro email
    exact ⟨Avatar.hash_eq email, Avatar.isDigest_hash email⟩
  · intro input
    refine ⟨Avatar.isEscaped_caption input, ?_⟩
    rw [Avatar.caption, Html.decode_escape, String.toList_ofList]
    exact Text.trims_trim _
  · intro email other input sink
    exact (Avatar.alikeBut_line email other).deliver
  · intro email other input otherInput place
    obtain ⟨begun, reached⟩ := Avatar.readAlike_line settings email input place
    obtain ⟨otherBegun, otherReached⟩ := Avatar.readAlike_line settings other otherInput place
    exact ⟨begun.trans otherBegun.symm, reached.trans otherReached.symm⟩
  · intro quoted email input
    exact Avatar.begun_line quoted email input

/-- Markup in an address and in a text adds nothing to the image. -/
theorem emailFilter_discloses_digest_only_markup :
    let input := Text.encode " <b onclick='x'>&amp;\n".toList
    let line := Avatar.line {} "'><script>@example.org" input
    '\x27' ∉ ({} : Settings).avatarBaseUrl.toList ∧
      Html.Place.text.begun line.toList =
        [.tag, .attribute, .attribute, .attribute, .attribute] ∧
      Html.Place.text.behind line.toList = .text := by
  intro input line
  have quoted : '\x27' ∉ ({} : Settings).avatarBaseUrl.toList := by decide
  obtain ⟨-, -, -, -, -, tags⟩ := emailFilter_discloses_digest_only (m := Id) {}
  exact ⟨quoted, tags quoted _ input⟩

end PageFilters
