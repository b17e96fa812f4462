import ChartCompiler.Text.Ascii
import ChartCompiler.Text.Blank

/-!
Regions that a map can draw: the states of the US with the numeric codes of the
state outlines, and countries with the numeric codes of the country outlines.
A label names a state by its name or abbreviation in any ASCII case, and a
country by one of its usual names in any case.
-/

namespace ChartCompiler.Geo

/-- A state, or the District of Columbia. -/
structure State where
  code : Nat
  abbreviation : String
  name : String
deriving DecidableEq, Repr

/-- The fifty states and the District of Columbia. -/
def states : List State :=
  [⟨1, "AL", "Alabama"⟩, ⟨2, "AK", "Alaska"⟩, ⟨4, "AZ", "Arizona"⟩, ⟨5, "AR", "Arkansas"⟩,
   ⟨6, "CA", "California"⟩, ⟨8, "CO", "Colorado"⟩, ⟨9, "CT", "Connecticut"⟩,
   ⟨10, "DE", "Delaware"⟩, ⟨11, "DC", "District of Columbia"⟩, ⟨12, "FL", "Florida"⟩,
   ⟨13, "GA", "Georgia"⟩, ⟨15, "HI", "Hawaii"⟩, ⟨16, "ID", "Idaho"⟩, ⟨17, "IL", "Illinois"⟩,
   ⟨18, "IN", "Indiana"⟩, ⟨19, "IA", "Iowa"⟩, ⟨20, "KS", "Kansas"⟩, ⟨21, "KY", "Kentucky"⟩,
   ⟨22, "LA", "Louisiana"⟩, ⟨23, "ME", "Maine"⟩, ⟨24, "MD", "Maryland"⟩,
   ⟨25, "MA", "Massachusetts"⟩, ⟨26, "MI", "Michigan"⟩, ⟨27, "MN", "Minnesota"⟩,
   ⟨28, "MS", "Mississippi"⟩, ⟨29, "MO", "Missouri"⟩, ⟨30, "MT", "Montana"⟩,
   ⟨31, "NE", "Nebraska"⟩, ⟨32, "NV", "Nevada"⟩, ⟨33, "NH", "New Hampshire"⟩,
   ⟨34, "NJ", "New Jersey"⟩, ⟨35, "NM", "New Mexico"⟩, ⟨36, "NY", "New York"⟩,
   ⟨37, "NC", "North Carolina"⟩, ⟨38, "ND", "North Dakota"⟩, ⟨39, "OH", "Ohio"⟩,
   ⟨40, "OK", "Oklahoma"⟩, ⟨41, "OR", "Oregon"⟩, ⟨42, "PA", "Pennsylvania"⟩,
   ⟨44, "RI", "Rhode Island"⟩, ⟨45, "SC", "South Carolina"⟩, ⟨46, "SD", "South Dakota"⟩,
   ⟨47, "TN", "Tennessee"⟩, ⟨48, "TX", "Texas"⟩, ⟨49, "UT", "Utah"⟩, ⟨50, "VT", "Vermont"⟩,
   ⟨51, "VA", "Virginia"⟩, ⟨53, "WA", "Washington"⟩, ⟨54, "WV", "West Virginia"⟩,
   ⟨55, "WI", "Wisconsin"⟩, ⟨56, "WY", "Wyoming"⟩]

/-- Usual names of countries with their numeric codes. -/
def countryCodes : List (String × Nat) :=
  [("Afghanistan", 4), ("Albania", 8), ("Algeria", 12), ("Angola", 24), ("Argentina", 32),
   ("Australia", 36), ("Austria", 40), ("Bangladesh", 50), ("Belarus", 112), ("Belgium", 56),
   ("Bolivia", 68), ("Brazil", 76), ("Bulgaria", 100), ("Cambodia", 116), ("Cameroon", 120),
   ("Canada", 124), ("Chad", 148), ("Chile", 152), ("China", 156), ("Colombia", 170),
   ("Costa Rica", 188), ("Croatia", 191), ("Cuba", 192), ("Czechia", 203),
   ("Czech Republic", 203), ("Democratic Republic of the Congo", 180), ("Denmark", 208),
   ("Dominican Republic", 214), ("Ecuador", 218), ("Egypt", 818), ("El Salvador", 222),
   ("Estonia", 233), ("Ethiopia", 231), ("Finland", 246), ("France", 250), ("Germany", 276),
   ("Ghana", 288), ("Greece", 300), ("Greenland", 304), ("Guatemala", 320), ("Honduras", 340),
   ("Hungary", 348), ("Iceland", 352), ("India", 356), ("Indonesia", 360), ("Iran", 364),
   ("Iraq", 368), ("Ireland", 372), ("Israel", 376), ("Italy", 380), ("Jamaica", 388),
   ("Japan", 392), ("Jordan", 400), ("Kazakhstan", 398), ("Kenya", 404), ("Kuwait", 414),
   ("Latvia", 428), ("Libya", 434), ("Lithuania", 440), ("Luxembourg", 442),
   ("Madagascar", 450), ("Malaysia", 458), ("Mali", 466), ("Mexico", 484), ("Mongolia", 496),
   ("Morocco", 504), ("Mozambique", 508), ("Myanmar", 104), ("Nepal", 524),
   ("Netherlands", 528), ("New Zealand", 554), ("Nicaragua", 558), ("Niger", 562),
   ("Nigeria", 566), ("North Korea", 408), ("Norway", 578), ("Oman", 512), ("Pakistan", 586),
   ("Panama", 591), ("Paraguay", 600), ("Peru", 604), ("Philippines", 608), ("Poland", 616),
   ("Portugal", 620), ("Qatar", 634), ("Romania", 642), ("Russia", 643),
   ("Russian Federation", 643), ("Saudi Arabia", 682), ("Serbia", 688), ("Singapore", 702),
   ("Slovakia", 703), ("South Africa", 710), ("South Korea", 410), ("Korea, Republic of", 410),
   ("Spain", 724), ("Sri Lanka", 144), ("Sudan", 729), ("Sweden", 752), ("Switzerland", 756),
   ("Syria", 760), ("Taiwan", 158), ("Tanzania", 834), ("Thailand", 764), ("Tunisia", 788),
   ("Turkey", 792), ("Türkiye", 792), ("Uganda", 800), ("Ukraine", 804),
   ("United Arab Emirates", 784), ("United Kingdom", 826), ("UK", 826), ("Great Britain", 826),
   ("United States", 840), ("United States of America", 840), ("USA", 840), ("Uruguay", 858),
   ("Venezuela", 862), ("Vietnam", 704), ("Viet Nam", 704), ("Yemen", 887), ("Zambia", 894),
   ("Zimbabwe", 716)]

/-- The state a label names. -/
def findState? (label : String) : Option State :=
  let wanted := Text.lower (Text.trim label)
  states.find? fun s => Text.lower s.abbreviation = wanted ∨ Text.lower s.name = wanted

/-- A letter in lower case. Beside ASCII these are the only characters whose
lower case occurs in a country name: `Ü`, and the Kelvin sign, whose lower case
is an ordinary `k`. -/
def lowerLetter (c : Char) : Char :=
  if c = 'Ü' then 'ü' else if c = '\u212a' then 'k' else asciiLower c

/-- A country name for comparison, whatever the case of its letters. -/
def countryKey (name : String) : List Char :=
  name.toList.map lowerLetter

/-- The code of the country a label names. -/
def findCountry? (label : String) : Option Nat :=
  let wanted := countryKey (Text.trim label)
  (countryCodes.find? fun entry => countryKey entry.1 = wanted).map Prod.snd

end ChartCompiler.Geo
