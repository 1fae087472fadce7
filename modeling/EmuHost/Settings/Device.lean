import EmuHost.Settings.Code

/-!
# Device settings

Options of the emulated device that are handed to the core as they are.
-/

namespace EmuHost

/-- The system language that guest software is told. -/
inductive SystemLanguage where
  | japanese
  | americanEnglish
  | french
  | german
  | italian
  | spanish
  | chinese
  | korean
  | dutch
  | portuguese
  | russian
  | taiwanese
  | britishEnglish
  | canadianFrench
  | latinAmericanSpanish
  | simplifiedChinese
  | traditionalChinese
  | brazilianPortuguese
  deriving DecidableEq, Repr

namespace SystemLanguage

/-- In the order of their numbers. -/
def all : List SystemLanguage :=
  [.japanese, .americanEnglish, .french, .german, .italian, .spanish, .chinese, .korean, .dutch,
    .portuguese, .russian, .taiwanese, .britishEnglish, .canadianFrench, .latinAmericanSpanish,
    .simplifiedChinese, .traditionalChinese, .brazilianPortuguese]

def name : SystemLanguage → String
  | .japanese => "Japanese"
  | .americanEnglish => "AmericanEnglish"
  | .french => "French"
  | .german => "German"
  | .italian => "Italian"
  | .spanish => "Spanish"
  | .chinese => "Chinese"
  | .korean => "Korean"
  | .dutch => "Dutch"
  | .portuguese => "Portuguese"
  | .russian => "Russian"
  | .taiwanese => "Taiwanese"
  | .britishEnglish => "BritishEnglish"
  | .canadianFrench => "CanadianFrench"
  | .latinAmericanSpanish => "LatinAmericanSpanish"
  | .simplifiedChinese => "SimplifiedChinese"
  | .traditionalChinese => "TraditionalChinese"
  | .brazilianPortuguese => "BrazilianPortuguese"

def code (l : SystemLanguage) : Nat := all.idxOf l

def ofCode (n : Int) : Except UnknownCode SystemLanguage := lookUpCode "SystemLanguage" all n

end SystemLanguage

/-- The region of the emulated console. -/
inductive RegionCode where
  | japan
  | usa
  | europe
  | australia
  | china
  | korea
  | taiwan
  deriving DecidableEq, Repr

namespace RegionCode

/-- In the order of their numbers. -/
def all : List RegionCode := [.japan, .usa, .europe, .australia, .china, .korea, .taiwan]

def name : RegionCode → String
  | .japan => "Japan"
  | .usa => "Usa"
  | .europe => "Europe"
  | .australia => "Australia"
  | .china => "China"
  | .korea => "Korea"
  | .taiwan => "Taiwan"

def code (r : RegionCode) : Nat := all.idxOf r

def ofCode (n : Int) : Except UnknownCode RegionCode := lookUpCode "RegionCode" all n

end RegionCode

/-- Options that the device context is created with. -/
structure DeviceOptions where
  hostMapped : Bool := true
  useNce : Bool := false
  systemLanguage : SystemLanguage := .americanEnglish
  region : RegionCode := .usa
  enableVsync : Bool := true
  dockedMode : Bool := true
  enablePtc : Bool := true
  enableInternetAccess : Bool := false
  timeZone : String := "UTC"
  ignoreMissingServices : Bool := false
  deriving DecidableEq, Repr

end EmuHost
