import UnitConversion.Catalog.Basic

/-!
# The built-in catalog

Weights around the gram, distances around the meter and temperatures around the degree Celsius.
-/

namespace UnitConversion.Standard

def gram : MeasureUnit := ⟨"g", "gram", "weight"⟩
def pound : MeasureUnit := ⟨"lb", "pound", "weight"⟩
def pood : MeasureUnit := ⟨"p", "pood", "weight"⟩

def meter : MeasureUnit := ⟨"m", "meter", "distance"⟩
def mile : MeasureUnit := ⟨"ml", "mile", "distance"⟩
def verst : MeasureUnit := ⟨"v", "verst", "distance"⟩

def celsius : MeasureUnit := ⟨"c", "celsius", "temperature"⟩
def fahrenheit : MeasureUnit := ⟨"f", "fahrenheit", "temperature"⟩
def kelvin : MeasureUnit := ⟨"k", "kelvin", "temperature"⟩

def weight : Group := ⟨"weight", gram, [pound, pood], by decide, by decide⟩
def distance : Group := ⟨"distance", meter, [mile, verst], by decide, by decide⟩
def temperature : Group := ⟨"temperature", celsius, [fahrenheit, kelvin], by decide, by decide⟩

/-- The groups of the built-in catalog. -/
def catalog : List Group := [weight, distance, temperature]

end UnitConversion.Standard
