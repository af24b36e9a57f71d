import Multirotor.Instrument.Panel
import Multirotor.Storage.Body

/-!
# Stored instruments

The settings of the instruments and what they show as documents.  Settings fall back to their
standard values field by field; readings have to be complete.
-/

namespace Multirotor

open Document

variable {α : Type} [Scalar α]

instance : Codec α InstrumentKind :=
  .ofNames
    [(.accelerometer, "accelerometer"), (.gyroscope, "gyroscope"), (.gps, "gps"),
     (.barometer, "barometer"), (.magnetometer, "magnetometer")]

instance : Codec α (InstrumentSettings α) where
  encode s := .record
    [("sample_num", encode s.sampleCount), ("noise_variance", encode s.noiseVariance)]
  decode d := do
    let r ← d.fields ["sample_num", "noise_variance"]
    let fallback : InstrumentSettings α := .standard
    return {
      sampleCount := ← optional r "sample_num" fallback.sampleCount
      noiseVariance := ← optional r "noise_variance" fallback.noiseVariance }

instance : Codec α (PanelSettings α) where
  encode s := .record
    [("accelerometer", encode s.accelerometer),
     ("gyroscope", encode s.gyroscope),
     ("gps", encode s.gps),
     ("barometer", encode s.barometer),
     ("magnetometer", encode s.magnetometer)]
  decode d := do
    let r ← d.fields ["accelerometer", "gyroscope", "gps", "barometer", "magnetometer"]
    let fallback : PanelSettings α := .standard
    return {
      accelerometer := ← optional r "accelerometer" fallback.accelerometer
      gyroscope := ← optional r "gyroscope" fallback.gyroscope
      gps := ← optional r "gps" fallback.gps
      barometer := ← optional r "barometer" fallback.barometer
      magnetometer := ← optional r "magnetometer" fallback.magnetometer }

instance : Codec α (GeoReference α) where
  encode g := .record
    [("latitude_deg", encode g.latitude),
     ("longitude_deg", encode g.longitude),
     ("altitude", encode g.altitude)]
  decode d := do
    let r ← d.fields ["latitude_deg", "longitude_deg", "altitude"]
    let fallback : GeoReference α := .standard
    return {
      latitude := ← optional r "latitude_deg" fallback.latitude
      longitude := ← optional r "longitude_deg" fallback.longitude
      altitude := ← optional r "altitude" fallback.altitude }

instance : Codec α (MagneticField α) where
  encode f := .record
    [("intensity_nt", encode f.intensity),
     ("declination_deg", encode f.declination),
     ("inclination_deg", encode f.inclination)]
  decode d := do
    let r ← d.fields ["intensity_nt", "declination_deg", "inclination_deg"]
    let fallback : MagneticField α := .standard
    return {
      intensity := ← optional r "intensity_nt" fallback.intensity
      declination := ← optional r "declination_deg" fallback.declination
      inclination := ← optional r "inclination_deg" fallback.inclination }

/-! ### Readings -/

instance : Codec α (GpsSample α) where
  encode s := .record
    [("latitude_deg", encode s.latitude),
     ("longitude_deg", encode s.longitude),
     ("altitude", encode s.altitude),
     ("velocity", encode s.velocity),
     ("ground_speed", encode s.groundSpeed),
     ("course_deg", encode s.course)]
  decode d := do
    let r ← d.fields
      ["latitude_deg", "longitude_deg", "altitude", "velocity", "ground_speed", "course_deg"]
    return {
      latitude := ← required r "latitude_deg"
      longitude := ← required r "longitude_deg"
      altitude := ← required r "altitude"
      velocity := ← required r "velocity"
      groundSpeed := ← required r "ground_speed"
      course := ← required r "course_deg" }

instance : Codec α (BarometerSample α) where
  encode s := .record
    [("abs_pressure", encode s.absolutePressure),
     ("diff_pressure", encode s.differentialPressure),
     ("pressure_alt", encode s.height)]
  decode d := do
    let r ← d.fields ["abs_pressure", "diff_pressure", "pressure_alt"]
    return {
      absolutePressure := ← required r "abs_pressure"
      differentialPressure := ← required r "diff_pressure"
      height := ← required r "pressure_alt" }

end Multirotor
