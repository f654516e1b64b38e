import ApiDocs.Text.Decomposition.Entry

/-!
# Compatibility decompositions, U+2000 to U+ABFF

The table is cut into parts of at most 64 entries, so that one look-up reads one part only.
-/

namespace ApiDocs.Text.Decomposition

/-- Entries from U+2000 to U+210E. -/
def symbols1 : List Entry := [
  ⟨0x2000, 0x2000, [0x20]⟩, ⟨0x2001, 0x2001, [0x20]⟩, ⟨0x2002, 0x2002, [0x20]⟩,
  ⟨0x2003, 0x2003, [0x20]⟩, ⟨0x2004, 0x2004, [0x20]⟩, ⟨0x2005, 0x2005, [0x20]⟩,
  ⟨0x2006, 0x2006, [0x20]⟩, ⟨0x2007, 0x2007, [0x20]⟩, ⟨0x2008, 0x2008, [0x20]⟩,
  ⟨0x2009, 0x2009, [0x20]⟩, ⟨0x200A, 0x200A, [0x20]⟩, ⟨0x2011, 0x2011, [0x2010]⟩,
  ⟨0x2017, 0x2017, [0x20, 0x333]⟩, ⟨0x2024, 0x2024, [0x2E]⟩, ⟨0x2025, 0x2025, [0x2E, 0x2E]⟩,
  ⟨0x2026, 0x2026, [0x2E, 0x2E, 0x2E]⟩, ⟨0x202F, 0x202F, [0x20]⟩,
  ⟨0x2033, 0x2033, [0x2032, 0x2032]⟩, ⟨0x2034, 0x2034, [0x2032, 0x2032, 0x2032]⟩,
  ⟨0x2036, 0x2036, [0x2035, 0x2035]⟩, ⟨0x2037, 0x2037, [0x2035, 0x2035, 0x2035]⟩,
  ⟨0x203C, 0x203C, [0x21, 0x21]⟩, ⟨0x203E, 0x203E, [0x20, 0x305]⟩, ⟨0x2047, 0x2047, [0x3F, 0x3F]⟩,
  ⟨0x2048, 0x2048, [0x3F, 0x21]⟩, ⟨0x2049, 0x2049, [0x21, 0x3F]⟩,
  ⟨0x2057, 0x2057, [0x2032, 0x2032, 0x2032, 0x2032]⟩, ⟨0x205F, 0x205F, [0x20]⟩,
  ⟨0x2070, 0x2070, [0x30]⟩, ⟨0x2071, 0x2071, [0x69]⟩, ⟨0x2074, 0x2079, [0x34]⟩,
  ⟨0x207A, 0x207A, [0x2B]⟩, ⟨0x207B, 0x207B, [0x2212]⟩, ⟨0x207C, 0x207C, [0x3D]⟩,
  ⟨0x207D, 0x207E, [0x28]⟩, ⟨0x207F, 0x207F, [0x6E]⟩, ⟨0x2080, 0x2089, [0x30]⟩,
  ⟨0x208A, 0x208A, [0x2B]⟩, ⟨0x208B, 0x208B, [0x2212]⟩, ⟨0x208C, 0x208C, [0x3D]⟩,
  ⟨0x208D, 0x208E, [0x28]⟩, ⟨0x2090, 0x2090, [0x61]⟩, ⟨0x2091, 0x2091, [0x65]⟩,
  ⟨0x2092, 0x2092, [0x6F]⟩, ⟨0x2093, 0x2093, [0x78]⟩, ⟨0x2094, 0x2094, [0x259]⟩,
  ⟨0x2095, 0x2095, [0x68]⟩, ⟨0x2096, 0x2099, [0x6B]⟩, ⟨0x209A, 0x209A, [0x70]⟩,
  ⟨0x209B, 0x209C, [0x73]⟩, ⟨0x20A8, 0x20A8, [0x52, 0x73]⟩, ⟨0x2100, 0x2100, [0x61, 0x2F, 0x63]⟩,
  ⟨0x2101, 0x2101, [0x61, 0x2F, 0x73]⟩, ⟨0x2102, 0x2102, [0x43]⟩, ⟨0x2103, 0x2103, [0xB0, 0x43]⟩,
  ⟨0x2105, 0x2105, [0x63, 0x2F, 0x6F]⟩, ⟨0x2106, 0x2106, [0x63, 0x2F, 0x75]⟩,
  ⟨0x2107, 0x2107, [0x190]⟩, ⟨0x2109, 0x2109, [0xB0, 0x46]⟩, ⟨0x210A, 0x210A, [0x67]⟩,
  ⟨0x210B, 0x210B, [0x48]⟩, ⟨0x210C, 0x210C, [0x48]⟩, ⟨0x210D, 0x210D, [0x48]⟩,
  ⟨0x210E, 0x210E, [0x68]⟩]

/-- Entries from U+210F to U+216E. -/
def symbols2 : List Entry := [
  ⟨0x210F, 0x210F, [0x127]⟩, ⟨0x2110, 0x2110, [0x49]⟩, ⟨0x2111, 0x2111, [0x49]⟩,
  ⟨0x2112, 0x2112, [0x4C]⟩, ⟨0x2113, 0x2113, [0x6C]⟩, ⟨0x2115, 0x2115, [0x4E]⟩,
  ⟨0x2116, 0x2116, [0x4E, 0x6F]⟩, ⟨0x2119, 0x211B, [0x50]⟩, ⟨0x211C, 0x211C, [0x52]⟩,
  ⟨0x211D, 0x211D, [0x52]⟩, ⟨0x2120, 0x2120, [0x53, 0x4D]⟩, ⟨0x2121, 0x2121, [0x54, 0x45, 0x4C]⟩,
  ⟨0x2122, 0x2122, [0x54, 0x4D]⟩, ⟨0x2124, 0x2124, [0x5A]⟩, ⟨0x2126, 0x2126, [0x3A9]⟩,
  ⟨0x2128, 0x2128, [0x5A]⟩, ⟨0x212A, 0x212A, [0x4B]⟩, ⟨0x212B, 0x212B, [0x41, 0x30A]⟩,
  ⟨0x212C, 0x212D, [0x42]⟩, ⟨0x212F, 0x212F, [0x65]⟩, ⟨0x2130, 0x2131, [0x45]⟩,
  ⟨0x2133, 0x2133, [0x4D]⟩, ⟨0x2134, 0x2134, [0x6F]⟩, ⟨0x2135, 0x2138, [0x5D0]⟩,
  ⟨0x2139, 0x2139, [0x69]⟩, ⟨0x213B, 0x213B, [0x46, 0x41, 0x58]⟩, ⟨0x213C, 0x213C, [0x3C0]⟩,
  ⟨0x213D, 0x213D, [0x3B3]⟩, ⟨0x213E, 0x213E, [0x393]⟩, ⟨0x213F, 0x213F, [0x3A0]⟩,
  ⟨0x2140, 0x2140, [0x2211]⟩, ⟨0x2145, 0x2145, [0x44]⟩, ⟨0x2146, 0x2147, [0x64]⟩,
  ⟨0x2148, 0x2149, [0x69]⟩, ⟨0x2150, 0x2150, [0x31, 0x2044, 0x37]⟩,
  ⟨0x2151, 0x2151, [0x31, 0x2044, 0x39]⟩, ⟨0x2152, 0x2152, [0x31, 0x2044, 0x31, 0x30]⟩,
  ⟨0x2153, 0x2153, [0x31, 0x2044, 0x33]⟩, ⟨0x2154, 0x2154, [0x32, 0x2044, 0x33]⟩,
  ⟨0x2155, 0x2155, [0x31, 0x2044, 0x35]⟩, ⟨0x2156, 0x2156, [0x32, 0x2044, 0x35]⟩,
  ⟨0x2157, 0x2157, [0x33, 0x2044, 0x35]⟩, ⟨0x2158, 0x2158, [0x34, 0x2044, 0x35]⟩,
  ⟨0x2159, 0x2159, [0x31, 0x2044, 0x36]⟩, ⟨0x215A, 0x215A, [0x35, 0x2044, 0x36]⟩,
  ⟨0x215B, 0x215B, [0x31, 0x2044, 0x38]⟩, ⟨0x215C, 0x215C, [0x33, 0x2044, 0x38]⟩,
  ⟨0x215D, 0x215D, [0x35, 0x2044, 0x38]⟩, ⟨0x215E, 0x215E, [0x37, 0x2044, 0x38]⟩,
  ⟨0x215F, 0x215F, [0x31, 0x2044]⟩, ⟨0x2160, 0x2160, [0x49]⟩, ⟨0x2161, 0x2161, [0x49, 0x49]⟩,
  ⟨0x2162, 0x2162, [0x49, 0x49, 0x49]⟩, ⟨0x2163, 0x2163, [0x49, 0x56]⟩, ⟨0x2164, 0x2164, [0x56]⟩,
  ⟨0x2165, 0x2165, [0x56, 0x49]⟩, ⟨0x2166, 0x2166, [0x56, 0x49, 0x49]⟩,
  ⟨0x2167, 0x2167, [0x56, 0x49, 0x49, 0x49]⟩, ⟨0x2168, 0x2168, [0x49, 0x58]⟩,
  ⟨0x2169, 0x2169, [0x58]⟩, ⟨0x216A, 0x216A, [0x58, 0x49]⟩, ⟨0x216B, 0x216B, [0x58, 0x49, 0x49]⟩,
  ⟨0x216C, 0x216C, [0x4C]⟩, ⟨0x216D, 0x216E, [0x43]⟩]

/-- Entries from U+216F to U+22EC. -/
def symbols3 : List Entry := [
  ⟨0x216F, 0x216F, [0x4D]⟩, ⟨0x2170, 0x2170, [0x69]⟩, ⟨0x2171, 0x2171, [0x69, 0x69]⟩,
  ⟨0x2172, 0x2172, [0x69, 0x69, 0x69]⟩, ⟨0x2173, 0x2173, [0x69, 0x76]⟩, ⟨0x2174, 0x2174, [0x76]⟩,
  ⟨0x2175, 0x2175, [0x76, 0x69]⟩, ⟨0x2176, 0x2176, [0x76, 0x69, 0x69]⟩,
  ⟨0x2177, 0x2177, [0x76, 0x69, 0x69, 0x69]⟩, ⟨0x2178, 0x2178, [0x69, 0x78]⟩,
  ⟨0x2179, 0x2179, [0x78]⟩, ⟨0x217A, 0x217A, [0x78, 0x69]⟩, ⟨0x217B, 0x217B, [0x78, 0x69, 0x69]⟩,
  ⟨0x217C, 0x217C, [0x6C]⟩, ⟨0x217D, 0x217E, [0x63]⟩, ⟨0x217F, 0x217F, [0x6D]⟩,
  ⟨0x2189, 0x2189, [0x30, 0x2044, 0x33]⟩, ⟨0x219A, 0x219A, [0x2190, 0x338]⟩,
  ⟨0x219B, 0x219B, [0x2192, 0x338]⟩, ⟨0x21AE, 0x21AE, [0x2194, 0x338]⟩,
  ⟨0x21CD, 0x21CD, [0x21D0, 0x338]⟩, ⟨0x21CE, 0x21CE, [0x21D4, 0x338]⟩,
  ⟨0x21CF, 0x21CF, [0x21D2, 0x338]⟩, ⟨0x2204, 0x2204, [0x2203, 0x338]⟩,
  ⟨0x2209, 0x2209, [0x2208, 0x338]⟩, ⟨0x220C, 0x220C, [0x220B, 0x338]⟩,
  ⟨0x2224, 0x2224, [0x2223, 0x338]⟩, ⟨0x2226, 0x2226, [0x2225, 0x338]⟩,
  ⟨0x222C, 0x222C, [0x222B, 0x222B]⟩, ⟨0x222D, 0x222D, [0x222B, 0x222B, 0x222B]⟩,
  ⟨0x222F, 0x222F, [0x222E, 0x222E]⟩, ⟨0x2230, 0x2230, [0x222E, 0x222E, 0x222E]⟩,
  ⟨0x2241, 0x2241, [0x223C, 0x338]⟩, ⟨0x2244, 0x2244, [0x2243, 0x338]⟩,
  ⟨0x2247, 0x2247, [0x2245, 0x338]⟩, ⟨0x2249, 0x2249, [0x2248, 0x338]⟩,
  ⟨0x2260, 0x2260, [0x3D, 0x338]⟩, ⟨0x2262, 0x2262, [0x2261, 0x338]⟩,
  ⟨0x226D, 0x226D, [0x224D, 0x338]⟩, ⟨0x226E, 0x226E, [0x3C, 0x338]⟩,
  ⟨0x226F, 0x226F, [0x3E, 0x338]⟩, ⟨0x2270, 0x2270, [0x2264, 0x338]⟩,
  ⟨0x2271, 0x2271, [0x2265, 0x338]⟩, ⟨0x2274, 0x2274, [0x2272, 0x338]⟩,
  ⟨0x2275, 0x2275, [0x2273, 0x338]⟩, ⟨0x2278, 0x2278, [0x2276, 0x338]⟩,
  ⟨0x2279, 0x2279, [0x2277, 0x338]⟩, ⟨0x2280, 0x2280, [0x227A, 0x338]⟩,
  ⟨0x2281, 0x2281, [0x227B, 0x338]⟩, ⟨0x2284, 0x2284, [0x2282, 0x338]⟩,
  ⟨0x2285, 0x2285, [0x2283, 0x338]⟩, ⟨0x2288, 0x2288, [0x2286, 0x338]⟩,
  ⟨0x2289, 0x2289, [0x2287, 0x338]⟩, ⟨0x22AC, 0x22AC, [0x22A2, 0x338]⟩,
  ⟨0x22AD, 0x22AD, [0x22A8, 0x338]⟩, ⟨0x22AE, 0x22AE, [0x22A9, 0x338]⟩,
  ⟨0x22AF, 0x22AF, [0x22AB, 0x338]⟩, ⟨0x22E0, 0x22E0, [0x227C, 0x338]⟩,
  ⟨0x22E1, 0x22E1, [0x227D, 0x338]⟩, ⟨0x22E2, 0x22E2, [0x2291, 0x338]⟩,
  ⟨0x22E3, 0x22E3, [0x2292, 0x338]⟩, ⟨0x22EA, 0x22EA, [0x22B2, 0x338]⟩,
  ⟨0x22EB, 0x22EB, [0x22B3, 0x338]⟩, ⟨0x22EC, 0x22EC, [0x22B4, 0x338]⟩]

/-- Entries from U+22ED to U+24A5. -/
def symbols4 : List Entry := [
  ⟨0x22ED, 0x22ED, [0x22B5, 0x338]⟩, ⟨0x2329, 0x232A, [0x3008]⟩, ⟨0x2460, 0x2468, [0x31]⟩,
  ⟨0x2469, 0x2469, [0x31, 0x30]⟩, ⟨0x246A, 0x246A, [0x31, 0x31]⟩, ⟨0x246B, 0x246B, [0x31, 0x32]⟩,
  ⟨0x246C, 0x246C, [0x31, 0x33]⟩, ⟨0x246D, 0x246D, [0x31, 0x34]⟩, ⟨0x246E, 0x246E, [0x31, 0x35]⟩,
  ⟨0x246F, 0x246F, [0x31, 0x36]⟩, ⟨0x2470, 0x2470, [0x31, 0x37]⟩, ⟨0x2471, 0x2471, [0x31, 0x38]⟩,
  ⟨0x2472, 0x2472, [0x31, 0x39]⟩, ⟨0x2473, 0x2473, [0x32, 0x30]⟩,
  ⟨0x2474, 0x2474, [0x28, 0x31, 0x29]⟩, ⟨0x2475, 0x2475, [0x28, 0x32, 0x29]⟩,
  ⟨0x2476, 0x2476, [0x28, 0x33, 0x29]⟩, ⟨0x2477, 0x2477, [0x28, 0x34, 0x29]⟩,
  ⟨0x2478, 0x2478, [0x28, 0x35, 0x29]⟩, ⟨0x2479, 0x2479, [0x28, 0x36, 0x29]⟩,
  ⟨0x247A, 0x247A, [0x28, 0x37, 0x29]⟩, ⟨0x247B, 0x247B, [0x28, 0x38, 0x29]⟩,
  ⟨0x247C, 0x247C, [0x28, 0x39, 0x29]⟩, ⟨0x247D, 0x247D, [0x28, 0x31, 0x30, 0x29]⟩,
  ⟨0x247E, 0x247E, [0x28, 0x31, 0x31, 0x29]⟩, ⟨0x247F, 0x247F, [0x28, 0x31, 0x32, 0x29]⟩,
  ⟨0x2480, 0x2480, [0x28, 0x31, 0x33, 0x29]⟩, ⟨0x2481, 0x2481, [0x28, 0x31, 0x34, 0x29]⟩,
  ⟨0x2482, 0x2482, [0x28, 0x31, 0x35, 0x29]⟩, ⟨0x2483, 0x2483, [0x28, 0x31, 0x36, 0x29]⟩,
  ⟨0x2484, 0x2484, [0x28, 0x31, 0x37, 0x29]⟩, ⟨0x2485, 0x2485, [0x28, 0x31, 0x38, 0x29]⟩,
  ⟨0x2486, 0x2486, [0x28, 0x31, 0x39, 0x29]⟩, ⟨0x2487, 0x2487, [0x28, 0x32, 0x30, 0x29]⟩,
  ⟨0x2488, 0x2488, [0x31, 0x2E]⟩, ⟨0x2489, 0x2489, [0x32, 0x2E]⟩, ⟨0x248A, 0x248A, [0x33, 0x2E]⟩,
  ⟨0x248B, 0x248B, [0x34, 0x2E]⟩, ⟨0x248C, 0x248C, [0x35, 0x2E]⟩, ⟨0x248D, 0x248D, [0x36, 0x2E]⟩,
  ⟨0x248E, 0x248E, [0x37, 0x2E]⟩, ⟨0x248F, 0x248F, [0x38, 0x2E]⟩, ⟨0x2490, 0x2490, [0x39, 0x2E]⟩,
  ⟨0x2491, 0x2491, [0x31, 0x30, 0x2E]⟩, ⟨0x2492, 0x2492, [0x31, 0x31, 0x2E]⟩,
  ⟨0x2493, 0x2493, [0x31, 0x32, 0x2E]⟩, ⟨0x2494, 0x2494, [0x31, 0x33, 0x2E]⟩,
  ⟨0x2495, 0x2495, [0x31, 0x34, 0x2E]⟩, ⟨0x2496, 0x2496, [0x31, 0x35, 0x2E]⟩,
  ⟨0x2497, 0x2497, [0x31, 0x36, 0x2E]⟩, ⟨0x2498, 0x2498, [0x31, 0x37, 0x2E]⟩,
  ⟨0x2499, 0x2499, [0x31, 0x38, 0x2E]⟩, ⟨0x249A, 0x249A, [0x31, 0x39, 0x2E]⟩,
  ⟨0x249B, 0x249B, [0x32, 0x30, 0x2E]⟩, ⟨0x249C, 0x249C, [0x28, 0x61, 0x29]⟩,
  ⟨0x249D, 0x249D, [0x28, 0x62, 0x29]⟩, ⟨0x249E, 0x249E, [0x28, 0x63, 0x29]⟩,
  ⟨0x249F, 0x249F, [0x28, 0x64, 0x29]⟩, ⟨0x24A0, 0x24A0, [0x28, 0x65, 0x29]⟩,
  ⟨0x24A1, 0x24A1, [0x28, 0x66, 0x29]⟩, ⟨0x24A2, 0x24A2, [0x28, 0x67, 0x29]⟩,
  ⟨0x24A3, 0x24A3, [0x28, 0x68, 0x29]⟩, ⟨0x24A4, 0x24A4, [0x28, 0x69, 0x29]⟩,
  ⟨0x24A5, 0x24A5, [0x28, 0x6A, 0x29]⟩]

/-- Entries from U+24A6 to U+2F22. -/
def symbols5 : List Entry := [
  ⟨0x24A6, 0x24A6, [0x28, 0x6B, 0x29]⟩, ⟨0x24A7, 0x24A7, [0x28, 0x6C, 0x29]⟩,
  ⟨0x24A8, 0x24A8, [0x28, 0x6D, 0x29]⟩, ⟨0x24A9, 0x24A9, [0x28, 0x6E, 0x29]⟩,
  ⟨0x24AA, 0x24AA, [0x28, 0x6F, 0x29]⟩, ⟨0x24AB, 0x24AB, [0x28, 0x70, 0x29]⟩,
  ⟨0x24AC, 0x24AC, [0x28, 0x71, 0x29]⟩, ⟨0x24AD, 0x24AD, [0x28, 0x72, 0x29]⟩,
  ⟨0x24AE, 0x24AE, [0x28, 0x73, 0x29]⟩, ⟨0x24AF, 0x24AF, [0x28, 0x74, 0x29]⟩,
  ⟨0x24B0, 0x24B0, [0x28, 0x75, 0x29]⟩, ⟨0x24B1, 0x24B1, [0x28, 0x76, 0x29]⟩,
  ⟨0x24B2, 0x24B2, [0x28, 0x77, 0x29]⟩, ⟨0x24B3, 0x24B3, [0x28, 0x78, 0x29]⟩,
  ⟨0x24B4, 0x24B4, [0x28, 0x79, 0x29]⟩, ⟨0x24B5, 0x24B5, [0x28, 0x7A, 0x29]⟩,
  ⟨0x24B6, 0x24CF, [0x41]⟩, ⟨0x24D0, 0x24E9, [0x61]⟩, ⟨0x24EA, 0x24EA, [0x30]⟩,
  ⟨0x2A0C, 0x2A0C, [0x222B, 0x222B, 0x222B, 0x222B]⟩, ⟨0x2A74, 0x2A74, [0x3A, 0x3A, 0x3D]⟩,
  ⟨0x2A75, 0x2A75, [0x3D, 0x3D]⟩, ⟨0x2A76, 0x2A76, [0x3D, 0x3D, 0x3D]⟩,
  ⟨0x2ADC, 0x2ADC, [0x2ADD, 0x338]⟩, ⟨0x2C7C, 0x2C7C, [0x6A]⟩, ⟨0x2C7D, 0x2C7D, [0x56]⟩,
  ⟨0x2D6F, 0x2D6F, [0x2D61]⟩, ⟨0x2E9F, 0x2E9F, [0x6BCD]⟩, ⟨0x2EF3, 0x2EF3, [0x9F9F]⟩,
  ⟨0x2F00, 0x2F00, [0x4E00]⟩, ⟨0x2F01, 0x2F01, [0x4E28]⟩, ⟨0x2F02, 0x2F02, [0x4E36]⟩,
  ⟨0x2F03, 0x2F03, [0x4E3F]⟩, ⟨0x2F04, 0x2F04, [0x4E59]⟩, ⟨0x2F05, 0x2F05, [0x4E85]⟩,
  ⟨0x2F06, 0x2F06, [0x4E8C]⟩, ⟨0x2F07, 0x2F07, [0x4EA0]⟩, ⟨0x2F08, 0x2F08, [0x4EBA]⟩,
  ⟨0x2F09, 0x2F09, [0x513F]⟩, ⟨0x2F0A, 0x2F0A, [0x5165]⟩, ⟨0x2F0B, 0x2F0B, [0x516B]⟩,
  ⟨0x2F0C, 0x2F0C, [0x5182]⟩, ⟨0x2F0D, 0x2F0D, [0x5196]⟩, ⟨0x2F0E, 0x2F0E, [0x51AB]⟩,
  ⟨0x2F0F, 0x2F0F, [0x51E0]⟩, ⟨0x2F10, 0x2F10, [0x51F5]⟩, ⟨0x2F11, 0x2F11, [0x5200]⟩,
  ⟨0x2F12, 0x2F12, [0x529B]⟩, ⟨0x2F13, 0x2F13, [0x52F9]⟩, ⟨0x2F14, 0x2F14, [0x5315]⟩,
  ⟨0x2F15, 0x2F15, [0x531A]⟩, ⟨0x2F16, 0x2F16, [0x5338]⟩, ⟨0x2F17, 0x2F17, [0x5341]⟩,
  ⟨0x2F18, 0x2F18, [0x535C]⟩, ⟨0x2F19, 0x2F19, [0x5369]⟩, ⟨0x2F1A, 0x2F1A, [0x5382]⟩,
  ⟨0x2F1B, 0x2F1B, [0x53B6]⟩, ⟨0x2F1C, 0x2F1C, [0x53C8]⟩, ⟨0x2F1D, 0x2F1D, [0x53E3]⟩,
  ⟨0x2F1E, 0x2F1E, [0x56D7]⟩, ⟨0x2F1F, 0x2F1F, [0x571F]⟩, ⟨0x2F20, 0x2F20, [0x58EB]⟩,
  ⟨0x2F21, 0x2F21, [0x5902]⟩, ⟨0x2F22, 0x2F22, [0x590A]⟩]

/-- Entries from U+2F23 to U+2F62. -/
def symbols6 : List Entry := [
  ⟨0x2F23, 0x2F23, [0x5915]⟩, ⟨0x2F24, 0x2F24, [0x5927]⟩, ⟨0x2F25, 0x2F25, [0x5973]⟩,
  ⟨0x2F26, 0x2F26, [0x5B50]⟩, ⟨0x2F27, 0x2F27, [0x5B80]⟩, ⟨0x2F28, 0x2F28, [0x5BF8]⟩,
  ⟨0x2F29, 0x2F29, [0x5C0F]⟩, ⟨0x2F2A, 0x2F2A, [0x5C22]⟩, ⟨0x2F2B, 0x2F2B, [0x5C38]⟩,
  ⟨0x2F2C, 0x2F2C, [0x5C6E]⟩, ⟨0x2F2D, 0x2F2D, [0x5C71]⟩, ⟨0x2F2E, 0x2F2E, [0x5DDB]⟩,
  ⟨0x2F2F, 0x2F2F, [0x5DE5]⟩, ⟨0x2F30, 0x2F30, [0x5DF1]⟩, ⟨0x2F31, 0x2F31, [0x5DFE]⟩,
  ⟨0x2F32, 0x2F32, [0x5E72]⟩, ⟨0x2F33, 0x2F33, [0x5E7A]⟩, ⟨0x2F34, 0x2F34, [0x5E7F]⟩,
  ⟨0x2F35, 0x2F35, [0x5EF4]⟩, ⟨0x2F36, 0x2F36, [0x5EFE]⟩, ⟨0x2F37, 0x2F37, [0x5F0B]⟩,
  ⟨0x2F38, 0x2F38, [0x5F13]⟩, ⟨0x2F39, 0x2F39, [0x5F50]⟩, ⟨0x2F3A, 0x2F3A, [0x5F61]⟩,
  ⟨0x2F3B, 0x2F3B, [0x5F73]⟩, ⟨0x2F3C, 0x2F3C, [0x5FC3]⟩, ⟨0x2F3D, 0x2F3D, [0x6208]⟩,
  ⟨0x2F3E, 0x2F3E, [0x6236]⟩, ⟨0x2F3F, 0x2F3F, [0x624B]⟩, ⟨0x2F40, 0x2F40, [0x652F]⟩,
  ⟨0x2F41, 0x2F41, [0x6534]⟩, ⟨0x2F42, 0x2F42, [0x6587]⟩, ⟨0x2F43, 0x2F43, [0x6597]⟩,
  ⟨0x2F44, 0x2F44, [0x65A4]⟩, ⟨0x2F45, 0x2F45, [0x65B9]⟩, ⟨0x2F46, 0x2F46, [0x65E0]⟩,
  ⟨0x2F47, 0x2F47, [0x65E5]⟩, ⟨0x2F48, 0x2F48, [0x66F0]⟩, ⟨0x2F49, 0x2F49, [0x6708]⟩,
  ⟨0x2F4A, 0x2F4A, [0x6728]⟩, ⟨0x2F4B, 0x2F4B, [0x6B20]⟩, ⟨0x2F4C, 0x2F4C, [0x6B62]⟩,
  ⟨0x2F4D, 0x2F4D, [0x6B79]⟩, ⟨0x2F4E, 0x2F4E, [0x6BB3]⟩, ⟨0x2F4F, 0x2F4F, [0x6BCB]⟩,
  ⟨0x2F50, 0x2F50, [0x6BD4]⟩, ⟨0x2F51, 0x2F51, [0x6BDB]⟩, ⟨0x2F52, 0x2F52, [0x6C0F]⟩,
  ⟨0x2F53, 0x2F53, [0x6C14]⟩, ⟨0x2F54, 0x2F54, [0x6C34]⟩, ⟨0x2F55, 0x2F55, [0x706B]⟩,
  ⟨0x2F56, 0x2F56, [0x722A]⟩, ⟨0x2F57, 0x2F57, [0x7236]⟩, ⟨0x2F58, 0x2F58, [0x723B]⟩,
  ⟨0x2F59, 0x2F59, [0x723F]⟩, ⟨0x2F5A, 0x2F5A, [0x7247]⟩, ⟨0x2F5B, 0x2F5B, [0x7259]⟩,
  ⟨0x2F5C, 0x2F5C, [0x725B]⟩, ⟨0x2F5D, 0x2F5D, [0x72AC]⟩, ⟨0x2F5E, 0x2F5E, [0x7384]⟩,
  ⟨0x2F5F, 0x2F5F, [0x7389]⟩, ⟨0x2F60, 0x2F60, [0x74DC]⟩, ⟨0x2F61, 0x2F61, [0x74E6]⟩,
  ⟨0x2F62, 0x2F62, [0x7518]⟩]

/-- Entries from U+2F63 to U+2FA2. -/
def symbols7 : List Entry := [
  ⟨0x2F63, 0x2F63, [0x751F]⟩, ⟨0x2F64, 0x2F64, [0x7528]⟩, ⟨0x2F65, 0x2F65, [0x7530]⟩,
  ⟨0x2F66, 0x2F66, [0x758B]⟩, ⟨0x2F67, 0x2F67, [0x7592]⟩, ⟨0x2F68, 0x2F68, [0x7676]⟩,
  ⟨0x2F69, 0x2F69, [0x767D]⟩, ⟨0x2F6A, 0x2F6A, [0x76AE]⟩, ⟨0x2F6B, 0x2F6B, [0x76BF]⟩,
  ⟨0x2F6C, 0x2F6C, [0x76EE]⟩, ⟨0x2F6D, 0x2F6D, [0x77DB]⟩, ⟨0x2F6E, 0x2F6E, [0x77E2]⟩,
  ⟨0x2F6F, 0x2F6F, [0x77F3]⟩, ⟨0x2F70, 0x2F70, [0x793A]⟩, ⟨0x2F71, 0x2F71, [0x79B8]⟩,
  ⟨0x2F72, 0x2F72, [0x79BE]⟩, ⟨0x2F73, 0x2F73, [0x7A74]⟩, ⟨0x2F74, 0x2F74, [0x7ACB]⟩,
  ⟨0x2F75, 0x2F75, [0x7AF9]⟩, ⟨0x2F76, 0x2F76, [0x7C73]⟩, ⟨0x2F77, 0x2F77, [0x7CF8]⟩,
  ⟨0x2F78, 0x2F78, [0x7F36]⟩, ⟨0x2F79, 0x2F79, [0x7F51]⟩, ⟨0x2F7A, 0x2F7A, [0x7F8A]⟩,
  ⟨0x2F7B, 0x2F7B, [0x7FBD]⟩, ⟨0x2F7C, 0x2F7C, [0x8001]⟩, ⟨0x2F7D, 0x2F7D, [0x800C]⟩,
  ⟨0x2F7E, 0x2F7E, [0x8012]⟩, ⟨0x2F7F, 0x2F7F, [0x8033]⟩, ⟨0x2F80, 0x2F80, [0x807F]⟩,
  ⟨0x2F81, 0x2F81, [0x8089]⟩, ⟨0x2F82, 0x2F82, [0x81E3]⟩, ⟨0x2F83, 0x2F83, [0x81EA]⟩,
  ⟨0x2F84, 0x2F84, [0x81F3]⟩, ⟨0x2F85, 0x2F85, [0x81FC]⟩, ⟨0x2F86, 0x2F86, [0x820C]⟩,
  ⟨0x2F87, 0x2F87, [0x821B]⟩, ⟨0x2F88, 0x2F88, [0x821F]⟩, ⟨0x2F89, 0x2F89, [0x826E]⟩,
  ⟨0x2F8A, 0x2F8A, [0x8272]⟩, ⟨0x2F8B, 0x2F8B, [0x8278]⟩, ⟨0x2F8C, 0x2F8C, [0x864D]⟩,
  ⟨0x2F8D, 0x2F8D, [0x866B]⟩, ⟨0x2F8E, 0x2F8E, [0x8840]⟩, ⟨0x2F8F, 0x2F8F, [0x884C]⟩,
  ⟨0x2F90, 0x2F90, [0x8863]⟩, ⟨0x2F91, 0x2F91, [0x897E]⟩, ⟨0x2F92, 0x2F92, [0x898B]⟩,
  ⟨0x2F93, 0x2F93, [0x89D2]⟩, ⟨0x2F94, 0x2F94, [0x8A00]⟩, ⟨0x2F95, 0x2F95, [0x8C37]⟩,
  ⟨0x2F96, 0x2F96, [0x8C46]⟩, ⟨0x2F97, 0x2F97, [0x8C55]⟩, ⟨0x2F98, 0x2F98, [0x8C78]⟩,
  ⟨0x2F99, 0x2F99, [0x8C9D]⟩, ⟨0x2F9A, 0x2F9A, [0x8D64]⟩, ⟨0x2F9B, 0x2F9B, [0x8D70]⟩,
  ⟨0x2F9C, 0x2F9C, [0x8DB3]⟩, ⟨0x2F9D, 0x2F9D, [0x8EAB]⟩, ⟨0x2F9E, 0x2F9E, [0x8ECA]⟩,
  ⟨0x2F9F, 0x2F9F, [0x8F9B]⟩, ⟨0x2FA0, 0x2FA0, [0x8FB0]⟩, ⟨0x2FA1, 0x2FA1, [0x8FB5]⟩,
  ⟨0x2FA2, 0x2FA2, [0x9091]⟩]

/-- Entries from U+2FA3 to U+305C. -/
def symbols8 : List Entry := [
  ⟨0x2FA3, 0x2FA3, [0x9149]⟩, ⟨0x2FA4, 0x2FA4, [0x91C6]⟩, ⟨0x2FA5, 0x2FA5, [0x91CC]⟩,
  ⟨0x2FA6, 0x2FA6, [0x91D1]⟩, ⟨0x2FA7, 0x2FA7, [0x9577]⟩, ⟨0x2FA8, 0x2FA8, [0x9580]⟩,
  ⟨0x2FA9, 0x2FA9, [0x961C]⟩, ⟨0x2FAA, 0x2FAA, [0x96B6]⟩, ⟨0x2FAB, 0x2FAB, [0x96B9]⟩,
  ⟨0x2FAC, 0x2FAC, [0x96E8]⟩, ⟨0x2FAD, 0x2FAD, [0x9751]⟩, ⟨0x2FAE, 0x2FAE, [0x975E]⟩,
  ⟨0x2FAF, 0x2FAF, [0x9762]⟩, ⟨0x2FB0, 0x2FB0, [0x9769]⟩, ⟨0x2FB1, 0x2FB1, [0x97CB]⟩,
  ⟨0x2FB2, 0x2FB2, [0x97ED]⟩, ⟨0x2FB3, 0x2FB3, [0x97F3]⟩, ⟨0x2FB4, 0x2FB4, [0x9801]⟩,
  ⟨0x2FB5, 0x2FB5, [0x98A8]⟩, ⟨0x2FB6, 0x2FB6, [0x98DB]⟩, ⟨0x2FB7, 0x2FB7, [0x98DF]⟩,
  ⟨0x2FB8, 0x2FB8, [0x9996]⟩, ⟨0x2FB9, 0x2FB9, [0x9999]⟩, ⟨0x2FBA, 0x2FBA, [0x99AC]⟩,
  ⟨0x2FBB, 0x2FBB, [0x9AA8]⟩, ⟨0x2FBC, 0x2FBC, [0x9AD8]⟩, ⟨0x2FBD, 0x2FBD, [0x9ADF]⟩,
  ⟨0x2FBE, 0x2FBE, [0x9B25]⟩, ⟨0x2FBF, 0x2FBF, [0x9B2F]⟩, ⟨0x2FC0, 0x2FC0, [0x9B32]⟩,
  ⟨0x2FC1, 0x2FC1, [0x9B3C]⟩, ⟨0x2FC2, 0x2FC2, [0x9B5A]⟩, ⟨0x2FC3, 0x2FC3, [0x9CE5]⟩,
  ⟨0x2FC4, 0x2FC4, [0x9E75]⟩, ⟨0x2FC5, 0x2FC5, [0x9E7F]⟩, ⟨0x2FC6, 0x2FC6, [0x9EA5]⟩,
  ⟨0x2FC7, 0x2FC7, [0x9EBB]⟩, ⟨0x2FC8, 0x2FC8, [0x9EC3]⟩, ⟨0x2FC9, 0x2FC9, [0x9ECD]⟩,
  ⟨0x2FCA, 0x2FCA, [0x9ED1]⟩, ⟨0x2FCB, 0x2FCB, [0x9EF9]⟩, ⟨0x2FCC, 0x2FCC, [0x9EFD]⟩,
  ⟨0x2FCD, 0x2FCD, [0x9F0E]⟩, ⟨0x2FCE, 0x2FCE, [0x9F13]⟩, ⟨0x2FCF, 0x2FCF, [0x9F20]⟩,
  ⟨0x2FD0, 0x2FD0, [0x9F3B]⟩, ⟨0x2FD1, 0x2FD1, [0x9F4A]⟩, ⟨0x2FD2, 0x2FD2, [0x9F52]⟩,
  ⟨0x2FD3, 0x2FD3, [0x9F8D]⟩, ⟨0x2FD4, 0x2FD4, [0x9F9C]⟩, ⟨0x2FD5, 0x2FD5, [0x9FA0]⟩,
  ⟨0x3000, 0x3000, [0x20]⟩, ⟨0x3036, 0x3036, [0x3012]⟩, ⟨0x3038, 0x3038, [0x5341]⟩,
  ⟨0x3039, 0x303A, [0x5344]⟩, ⟨0x304C, 0x304C, [0x304B, 0x3099]⟩,
  ⟨0x304E, 0x304E, [0x304D, 0x3099]⟩, ⟨0x3050, 0x3050, [0x304F, 0x3099]⟩,
  ⟨0x3052, 0x3052, [0x3051, 0x3099]⟩, ⟨0x3054, 0x3054, [0x3053, 0x3099]⟩,
  ⟨0x3056, 0x3056, [0x3055, 0x3099]⟩, ⟨0x3058, 0x3058, [0x3057, 0x3099]⟩,
  ⟨0x305A, 0x305A, [0x3059, 0x3099]⟩, ⟨0x305C, 0x305C, [0x305B, 0x3099]⟩]

/-- Entries from U+305E to U+3163. -/
def symbols9 : List Entry := [
  ⟨0x305E, 0x305E, [0x305D, 0x3099]⟩, ⟨0x3060, 0x3060, [0x305F, 0x3099]⟩,
  ⟨0x3062, 0x3062, [0x3061, 0x3099]⟩, ⟨0x3065, 0x3065, [0x3064, 0x3099]⟩,
  ⟨0x3067, 0x3067, [0x3066, 0x3099]⟩, ⟨0x3069, 0x3069, [0x3068, 0x3099]⟩,
  ⟨0x3070, 0x3070, [0x306F, 0x3099]⟩, ⟨0x3071, 0x3071, [0x306F, 0x309A]⟩,
  ⟨0x3073, 0x3073, [0x3072, 0x3099]⟩, ⟨0x3074, 0x3074, [0x3072, 0x309A]⟩,
  ⟨0x3076, 0x3076, [0x3075, 0x3099]⟩, ⟨0x3077, 0x3077, [0x3075, 0x309A]⟩,
  ⟨0x3079, 0x3079, [0x3078, 0x3099]⟩, ⟨0x307A, 0x307A, [0x3078, 0x309A]⟩,
  ⟨0x307C, 0x307C, [0x307B, 0x3099]⟩, ⟨0x307D, 0x307D, [0x307B, 0x309A]⟩,
  ⟨0x3094, 0x3094, [0x3046, 0x3099]⟩, ⟨0x309B, 0x309B, [0x20, 0x3099]⟩,
  ⟨0x309C, 0x309C, [0x20, 0x309A]⟩, ⟨0x309E, 0x309E, [0x309D, 0x3099]⟩,
  ⟨0x309F, 0x309F, [0x3088, 0x308A]⟩, ⟨0x30AC, 0x30AC, [0x30AB, 0x3099]⟩,
  ⟨0x30AE, 0x30AE, [0x30AD, 0x3099]⟩, ⟨0x30B0, 0x30B0, [0x30AF, 0x3099]⟩,
  ⟨0x30B2, 0x30B2, [0x30B1, 0x3099]⟩, ⟨0x30B4, 0x30B4, [0x30B3, 0x3099]⟩,
  ⟨0x30B6, 0x30B6, [0x30B5, 0x3099]⟩, ⟨0x30B8, 0x30B8, [0x30B7, 0x3099]⟩,
  ⟨0x30BA, 0x30BA, [0x30B9, 0x3099]⟩, ⟨0x30BC, 0x30BC, [0x30BB, 0x3099]⟩,
  ⟨0x30BE, 0x30BE, [0x30BD, 0x3099]⟩, ⟨0x30C0, 0x30C0, [0x30BF, 0x3099]⟩,
  ⟨0x30C2, 0x30C2, [0x30C1, 0x3099]⟩, ⟨0x30C5, 0x30C5, [0x30C4, 0x3099]⟩,
  ⟨0x30C7, 0x30C7, [0x30C6, 0x3099]⟩, ⟨0x30C9, 0x30C9, [0x30C8, 0x3099]⟩,
  ⟨0x30D0, 0x30D0, [0x30CF, 0x3099]⟩, ⟨0x30D1, 0x30D1, [0x30CF, 0x309A]⟩,
  ⟨0x30D3, 0x30D3, [0x30D2, 0x3099]⟩, ⟨0x30D4, 0x30D4, [0x30D2, 0x309A]⟩,
  ⟨0x30D6, 0x30D6, [0x30D5, 0x3099]⟩, ⟨0x30D7, 0x30D7, [0x30D5, 0x309A]⟩,
  ⟨0x30D9, 0x30D9, [0x30D8, 0x3099]⟩, ⟨0x30DA, 0x30DA, [0x30D8, 0x309A]⟩,
  ⟨0x30DC, 0x30DC, [0x30DB, 0x3099]⟩, ⟨0x30DD, 0x30DD, [0x30DB, 0x309A]⟩,
  ⟨0x30F4, 0x30F4, [0x30A6, 0x3099]⟩, ⟨0x30F7, 0x30F7, [0x30EF, 0x3099]⟩,
  ⟨0x30F8, 0x30F8, [0x30F0, 0x3099]⟩, ⟨0x30F9, 0x30F9, [0x30F1, 0x3099]⟩,
  ⟨0x30FA, 0x30FA, [0x30F2, 0x3099]⟩, ⟨0x30FE, 0x30FE, [0x30FD, 0x3099]⟩,
  ⟨0x30FF, 0x30FF, [0x30B3, 0x30C8]⟩, ⟨0x3131, 0x3132, [0x1100]⟩, ⟨0x3133, 0x3133, [0x11AA]⟩,
  ⟨0x3134, 0x3134, [0x1102]⟩, ⟨0x3135, 0x3136, [0x11AC]⟩, ⟨0x3137, 0x3139, [0x1103]⟩,
  ⟨0x313A, 0x313F, [0x11B0]⟩, ⟨0x3140, 0x3140, [0x111A]⟩, ⟨0x3141, 0x3143, [0x1106]⟩,
  ⟨0x3144, 0x3144, [0x1121]⟩, ⟨0x3145, 0x314E, [0x1109]⟩, ⟨0x314F, 0x3163, [0x1161]⟩]

/-- Entries from U+3164 to U+3213. -/
def symbols10 : List Entry := [
  ⟨0x3164, 0x3164, [0x1160]⟩, ⟨0x3165, 0x3166, [0x1114]⟩, ⟨0x3167, 0x3168, [0x11C7]⟩,
  ⟨0x3169, 0x3169, [0x11CC]⟩, ⟨0x316A, 0x316A, [0x11CE]⟩, ⟨0x316B, 0x316B, [0x11D3]⟩,
  ⟨0x316C, 0x316C, [0x11D7]⟩, ⟨0x316D, 0x316D, [0x11D9]⟩, ⟨0x316E, 0x316E, [0x111C]⟩,
  ⟨0x316F, 0x316F, [0x11DD]⟩, ⟨0x3170, 0x3170, [0x11DF]⟩, ⟨0x3171, 0x3172, [0x111D]⟩,
  ⟨0x3173, 0x3173, [0x1120]⟩, ⟨0x3174, 0x3175, [0x1122]⟩, ⟨0x3176, 0x3176, [0x1127]⟩,
  ⟨0x3177, 0x3177, [0x1129]⟩, ⟨0x3178, 0x317C, [0x112B]⟩, ⟨0x317D, 0x317D, [0x1132]⟩,
  ⟨0x317E, 0x317E, [0x1136]⟩, ⟨0x317F, 0x317F, [0x1140]⟩, ⟨0x3180, 0x3180, [0x1147]⟩,
  ⟨0x3181, 0x3181, [0x114C]⟩, ⟨0x3182, 0x3183, [0x11F1]⟩, ⟨0x3184, 0x3186, [0x1157]⟩,
  ⟨0x3187, 0x3188, [0x1184]⟩, ⟨0x3189, 0x3189, [0x1188]⟩, ⟨0x318A, 0x318B, [0x1191]⟩,
  ⟨0x318C, 0x318C, [0x1194]⟩, ⟨0x318D, 0x318D, [0x119E]⟩, ⟨0x318E, 0x318E, [0x11A1]⟩,
  ⟨0x3192, 0x3192, [0x4E00]⟩, ⟨0x3193, 0x3193, [0x4E8C]⟩, ⟨0x3194, 0x3194, [0x4E09]⟩,
  ⟨0x3195, 0x3195, [0x56DB]⟩, ⟨0x3196, 0x3196, [0x4E0A]⟩, ⟨0x3197, 0x3197, [0x4E2D]⟩,
  ⟨0x3198, 0x3198, [0x4E0B]⟩, ⟨0x3199, 0x3199, [0x7532]⟩, ⟨0x319A, 0x319A, [0x4E59]⟩,
  ⟨0x319B, 0x319B, [0x4E19]⟩, ⟨0x319C, 0x319C, [0x4E01]⟩, ⟨0x319D, 0x319D, [0x5929]⟩,
  ⟨0x319E, 0x319E, [0x5730]⟩, ⟨0x319F, 0x319F, [0x4EBA]⟩, ⟨0x3200, 0x3200, [0x28, 0x1100, 0x29]⟩,
  ⟨0x3201, 0x3201, [0x28, 0x1102, 0x29]⟩, ⟨0x3202, 0x3202, [0x28, 0x1103, 0x29]⟩,
  ⟨0x3203, 0x3203, [0x28, 0x1105, 0x29]⟩, ⟨0x3204, 0x3204, [0x28, 0x1106, 0x29]⟩,
  ⟨0x3205, 0x3205, [0x28, 0x1107, 0x29]⟩, ⟨0x3206, 0x3206, [0x28, 0x1109, 0x29]⟩,
  ⟨0x3207, 0x3207, [0x28, 0x110B, 0x29]⟩, ⟨0x3208, 0x3208, [0x28, 0x110C, 0x29]⟩,
  ⟨0x3209, 0x3209, [0x28, 0x110E, 0x29]⟩, ⟨0x320A, 0x320A, [0x28, 0x110F, 0x29]⟩,
  ⟨0x320B, 0x320B, [0x28, 0x1110, 0x29]⟩, ⟨0x320C, 0x320C, [0x28, 0x1111, 0x29]⟩,
  ⟨0x320D, 0x320D, [0x28, 0x1112, 0x29]⟩, ⟨0x320E, 0x320E, [0x28, 0x1100, 0x1161, 0x29]⟩,
  ⟨0x320F, 0x320F, [0x28, 0x1102, 0x1161, 0x29]⟩, ⟨0x3210, 0x3210, [0x28, 0x1103, 0x1161, 0x29]⟩,
  ⟨0x3211, 0x3211, [0x28, 0x1105, 0x1161, 0x29]⟩, ⟨0x3212, 0x3212, [0x28, 0x1106, 0x1161, 0x29]⟩,
  ⟨0x3213, 0x3213, [0x28, 0x1107, 0x1161, 0x29]⟩]

/-- Entries from U+3214 to U+325C. -/
def symbols11 : List Entry := [
  ⟨0x3214, 0x3214, [0x28, 0x1109, 0x1161, 0x29]⟩, ⟨0x3215, 0x3215, [0x28, 0x110B, 0x1161, 0x29]⟩,
  ⟨0x3216, 0x3216, [0x28, 0x110C, 0x1161, 0x29]⟩, ⟨0x3217, 0x3217, [0x28, 0x110E, 0x1161, 0x29]⟩,
  ⟨0x3218, 0x3218, [0x28, 0x110F, 0x1161, 0x29]⟩, ⟨0x3219, 0x3219, [0x28, 0x1110, 0x1161, 0x29]⟩,
  ⟨0x321A, 0x321A, [0x28, 0x1111, 0x1161, 0x29]⟩, ⟨0x321B, 0x321B, [0x28, 0x1112, 0x1161, 0x29]⟩,
  ⟨0x321C, 0x321C, [0x28, 0x110C, 0x116E, 0x29]⟩,
  ⟨0x321D, 0x321D, [0x28, 0x110B, 0x1169, 0x110C, 0x1165, 0x11AB, 0x29]⟩,
  ⟨0x321E, 0x321E, [0x28, 0x110B, 0x1169, 0x1112, 0x116E, 0x29]⟩,
  ⟨0x3220, 0x3220, [0x28, 0x4E00, 0x29]⟩, ⟨0x3221, 0x3221, [0x28, 0x4E8C, 0x29]⟩,
  ⟨0x3222, 0x3222, [0x28, 0x4E09, 0x29]⟩, ⟨0x3223, 0x3223, [0x28, 0x56DB, 0x29]⟩,
  ⟨0x3224, 0x3224, [0x28, 0x4E94, 0x29]⟩, ⟨0x3225, 0x3225, [0x28, 0x516D, 0x29]⟩,
  ⟨0x3226, 0x3226, [0x28, 0x4E03, 0x29]⟩, ⟨0x3227, 0x3227, [0x28, 0x516B, 0x29]⟩,
  ⟨0x3228, 0x3228, [0x28, 0x4E5D, 0x29]⟩, ⟨0x3229, 0x3229, [0x28, 0x5341, 0x29]⟩,
  ⟨0x322A, 0x322A, [0x28, 0x6708, 0x29]⟩, ⟨0x322B, 0x322B, [0x28, 0x706B, 0x29]⟩,
  ⟨0x322C, 0x322C, [0x28, 0x6C34, 0x29]⟩, ⟨0x322D, 0x322D, [0x28, 0x6728, 0x29]⟩,
  ⟨0x322E, 0x322E, [0x28, 0x91D1, 0x29]⟩, ⟨0x322F, 0x322F, [0x28, 0x571F, 0x29]⟩,
  ⟨0x3230, 0x3230, [0x28, 0x65E5, 0x29]⟩, ⟨0x3231, 0x3231, [0x28, 0x682A, 0x29]⟩,
  ⟨0x3232, 0x3232, [0x28, 0x6709, 0x29]⟩, ⟨0x3233, 0x3233, [0x28, 0x793E, 0x29]⟩,
  ⟨0x3234, 0x3234, [0x28, 0x540D, 0x29]⟩, ⟨0x3235, 0x3235, [0x28, 0x7279, 0x29]⟩,
  ⟨0x3236, 0x3236, [0x28, 0x8CA1, 0x29]⟩, ⟨0x3237, 0x3237, [0x28, 0x795D, 0x29]⟩,
  ⟨0x3238, 0x3238, [0x28, 0x52B4, 0x29]⟩, ⟨0x3239, 0x3239, [0x28, 0x4EE3, 0x29]⟩,
  ⟨0x323A, 0x323A, [0x28, 0x547C, 0x29]⟩, ⟨0x323B, 0x323B, [0x28, 0x5B66, 0x29]⟩,
  ⟨0x323C, 0x323C, [0x28, 0x76E3, 0x29]⟩, ⟨0x323D, 0x323D, [0x28, 0x4F01, 0x29]⟩,
  ⟨0x323E, 0x323E, [0x28, 0x8CC7, 0x29]⟩, ⟨0x323F, 0x323F, [0x28, 0x5354, 0x29]⟩,
  ⟨0x3240, 0x3240, [0x28, 0x796D, 0x29]⟩, ⟨0x3241, 0x3241, [0x28, 0x4F11, 0x29]⟩,
  ⟨0x3242, 0x3242, [0x28, 0x81EA, 0x29]⟩, ⟨0x3243, 0x3243, [0x28, 0x81F3, 0x29]⟩,
  ⟨0x3244, 0x3244, [0x554F]⟩, ⟨0x3245, 0x3245, [0x5E7C]⟩, ⟨0x3246, 0x3246, [0x6587]⟩,
  ⟨0x3247, 0x3247, [0x7B8F]⟩, ⟨0x3250, 0x3250, [0x50, 0x54, 0x45]⟩, ⟨0x3251, 0x3251, [0x32, 0x31]⟩,
  ⟨0x3252, 0x3252, [0x32, 0x32]⟩, ⟨0x3253, 0x3253, [0x32, 0x33]⟩, ⟨0x3254, 0x3254, [0x32, 0x34]⟩,
  ⟨0x3255, 0x3255, [0x32, 0x35]⟩, ⟨0x3256, 0x3256, [0x32, 0x36]⟩, ⟨0x3257, 0x3257, [0x32, 0x37]⟩,
  ⟨0x3258, 0x3258, [0x32, 0x38]⟩, ⟨0x3259, 0x3259, [0x32, 0x39]⟩, ⟨0x325A, 0x325A, [0x33, 0x30]⟩,
  ⟨0x325B, 0x325B, [0x33, 0x31]⟩, ⟨0x325C, 0x325C, [0x33, 0x32]⟩]

/-- Entries from U+325D to U+32A5. -/
def symbols12 : List Entry := [
  ⟨0x325D, 0x325D, [0x33, 0x33]⟩, ⟨0x325E, 0x325E, [0x33, 0x34]⟩, ⟨0x325F, 0x325F, [0x33, 0x35]⟩,
  ⟨0x3260, 0x3260, [0x1100]⟩, ⟨0x3261, 0x3262, [0x1102]⟩, ⟨0x3263, 0x3265, [0x1105]⟩,
  ⟨0x3266, 0x3266, [0x1109]⟩, ⟨0x3267, 0x3268, [0x110B]⟩, ⟨0x3269, 0x326D, [0x110E]⟩,
  ⟨0x326E, 0x326E, [0x1100, 0x1161]⟩, ⟨0x326F, 0x326F, [0x1102, 0x1161]⟩,
  ⟨0x3270, 0x3270, [0x1103, 0x1161]⟩, ⟨0x3271, 0x3271, [0x1105, 0x1161]⟩,
  ⟨0x3272, 0x3272, [0x1106, 0x1161]⟩, ⟨0x3273, 0x3273, [0x1107, 0x1161]⟩,
  ⟨0x3274, 0x3274, [0x1109, 0x1161]⟩, ⟨0x3275, 0x3275, [0x110B, 0x1161]⟩,
  ⟨0x3276, 0x3276, [0x110C, 0x1161]⟩, ⟨0x3277, 0x3277, [0x110E, 0x1161]⟩,
  ⟨0x3278, 0x3278, [0x110F, 0x1161]⟩, ⟨0x3279, 0x3279, [0x1110, 0x1161]⟩,
  ⟨0x327A, 0x327A, [0x1111, 0x1161]⟩, ⟨0x327B, 0x327B, [0x1112, 0x1161]⟩,
  ⟨0x327C, 0x327C, [0x110E, 0x1161, 0x11B7, 0x1100, 0x1169]⟩,
  ⟨0x327D, 0x327D, [0x110C, 0x116E, 0x110B, 0x1174]⟩, ⟨0x327E, 0x327E, [0x110B, 0x116E]⟩,
  ⟨0x3280, 0x3280, [0x4E00]⟩, ⟨0x3281, 0x3281, [0x4E8C]⟩, ⟨0x3282, 0x3282, [0x4E09]⟩,
  ⟨0x3283, 0x3283, [0x56DB]⟩, ⟨0x3284, 0x3284, [0x4E94]⟩, ⟨0x3285, 0x3285, [0x516D]⟩,
  ⟨0x3286, 0x3286, [0x4E03]⟩, ⟨0x3287, 0x3287, [0x516B]⟩, ⟨0x3288, 0x3288, [0x4E5D]⟩,
  ⟨0x3289, 0x3289, [0x5341]⟩, ⟨0x328A, 0x328A, [0x6708]⟩, ⟨0x328B, 0x328B, [0x706B]⟩,
  ⟨0x328C, 0x328C, [0x6C34]⟩, ⟨0x328D, 0x328D, [0x6728]⟩, ⟨0x328E, 0x328E, [0x91D1]⟩,
  ⟨0x328F, 0x328F, [0x571F]⟩, ⟨0x3290, 0x3290, [0x65E5]⟩, ⟨0x3291, 0x3291, [0x682A]⟩,
  ⟨0x3292, 0x3292, [0x6709]⟩, ⟨0x3293, 0x3293, [0x793E]⟩, ⟨0x3294, 0x3294, [0x540D]⟩,
  ⟨0x3295, 0x3295, [0x7279]⟩, ⟨0x3296, 0x3296, [0x8CA1]⟩, ⟨0x3297, 0x3297, [0x795D]⟩,
  ⟨0x3298, 0x3298, [0x52B4]⟩, ⟨0x3299, 0x3299, [0x79D8]⟩, ⟨0x329A, 0x329A, [0x7537]⟩,
  ⟨0x329B, 0x329B, [0x5973]⟩, ⟨0x329C, 0x329C, [0x9069]⟩, ⟨0x329D, 0x329D, [0x512A]⟩,
  ⟨0x329E, 0x329E, [0x5370]⟩, ⟨0x329F, 0x329F, [0x6CE8]⟩, ⟨0x32A0, 0x32A0, [0x9805]⟩,
  ⟨0x32A1, 0x32A1, [0x4F11]⟩, ⟨0x32A2, 0x32A2, [0x5199]⟩, ⟨0x32A3, 0x32A3, [0x6B63]⟩,
  ⟨0x32A4, 0x32A4, [0x4E0A]⟩, ⟨0x32A5, 0x32A5, [0x4E2D]⟩]

/-- Entries from U+32A6 to U+32EB. -/
def symbols13 : List Entry := [
  ⟨0x32A6, 0x32A6, [0x4E0B]⟩, ⟨0x32A7, 0x32A7, [0x5DE6]⟩, ⟨0x32A8, 0x32A8, [0x53F3]⟩,
  ⟨0x32A9, 0x32A9, [0x533B]⟩, ⟨0x32AA, 0x32AA, [0x5B97]⟩, ⟨0x32AB, 0x32AB, [0x5B66]⟩,
  ⟨0x32AC, 0x32AC, [0x76E3]⟩, ⟨0x32AD, 0x32AD, [0x4F01]⟩, ⟨0x32AE, 0x32AE, [0x8CC7]⟩,
  ⟨0x32AF, 0x32AF, [0x5354]⟩, ⟨0x32B0, 0x32B0, [0x591C]⟩, ⟨0x32B1, 0x32B1, [0x33, 0x36]⟩,
  ⟨0x32B2, 0x32B2, [0x33, 0x37]⟩, ⟨0x32B3, 0x32B3, [0x33, 0x38]⟩, ⟨0x32B4, 0x32B4, [0x33, 0x39]⟩,
  ⟨0x32B5, 0x32B5, [0x34, 0x30]⟩, ⟨0x32B6, 0x32B6, [0x34, 0x31]⟩, ⟨0x32B7, 0x32B7, [0x34, 0x32]⟩,
  ⟨0x32B8, 0x32B8, [0x34, 0x33]⟩, ⟨0x32B9, 0x32B9, [0x34, 0x34]⟩, ⟨0x32BA, 0x32BA, [0x34, 0x35]⟩,
  ⟨0x32BB, 0x32BB, [0x34, 0x36]⟩, ⟨0x32BC, 0x32BC, [0x34, 0x37]⟩, ⟨0x32BD, 0x32BD, [0x34, 0x38]⟩,
  ⟨0x32BE, 0x32BE, [0x34, 0x39]⟩, ⟨0x32BF, 0x32BF, [0x35, 0x30]⟩, ⟨0x32C0, 0x32C0, [0x31, 0x6708]⟩,
  ⟨0x32C1, 0x32C1, [0x32, 0x6708]⟩, ⟨0x32C2, 0x32C2, [0x33, 0x6708]⟩,
  ⟨0x32C3, 0x32C3, [0x34, 0x6708]⟩, ⟨0x32C4, 0x32C4, [0x35, 0x6708]⟩,
  ⟨0x32C5, 0x32C5, [0x36, 0x6708]⟩, ⟨0x32C6, 0x32C6, [0x37, 0x6708]⟩,
  ⟨0x32C7, 0x32C7, [0x38, 0x6708]⟩, ⟨0x32C8, 0x32C8, [0x39, 0x6708]⟩,
  ⟨0x32C9, 0x32C9, [0x31, 0x30, 0x6708]⟩, ⟨0x32CA, 0x32CA, [0x31, 0x31, 0x6708]⟩,
  ⟨0x32CB, 0x32CB, [0x31, 0x32, 0x6708]⟩, ⟨0x32CC, 0x32CC, [0x48, 0x67]⟩,
  ⟨0x32CD, 0x32CD, [0x65, 0x72, 0x67]⟩, ⟨0x32CE, 0x32CE, [0x65, 0x56]⟩,
  ⟨0x32CF, 0x32CF, [0x4C, 0x54, 0x44]⟩, ⟨0x32D0, 0x32D0, [0x30A2]⟩, ⟨0x32D1, 0x32D1, [0x30A4]⟩,
  ⟨0x32D2, 0x32D2, [0x30A6]⟩, ⟨0x32D3, 0x32D3, [0x30A8]⟩, ⟨0x32D4, 0x32D5, [0x30AA]⟩,
  ⟨0x32D6, 0x32D6, [0x30AD]⟩, ⟨0x32D7, 0x32D7, [0x30AF]⟩, ⟨0x32D8, 0x32D8, [0x30B1]⟩,
  ⟨0x32D9, 0x32D9, [0x30B3]⟩, ⟨0x32DA, 0x32DA, [0x30B5]⟩, ⟨0x32DB, 0x32DB, [0x30B7]⟩,
  ⟨0x32DC, 0x32DC, [0x30B9]⟩, ⟨0x32DD, 0x32DD, [0x30BB]⟩, ⟨0x32DE, 0x32DE, [0x30BD]⟩,
  ⟨0x32DF, 0x32DF, [0x30BF]⟩, ⟨0x32E0, 0x32E0, [0x30C1]⟩, ⟨0x32E1, 0x32E1, [0x30C4]⟩,
  ⟨0x32E2, 0x32E2, [0x30C6]⟩, ⟨0x32E3, 0x32E3, [0x30C8]⟩, ⟨0x32E4, 0x32E9, [0x30CA]⟩,
  ⟨0x32EA, 0x32EA, [0x30D2]⟩, ⟨0x32EB, 0x32EB, [0x30D5]⟩]

/-- Entries from U+32EC to U+3337. -/
def symbols14 : List Entry := [
  ⟨0x32EC, 0x32EC, [0x30D8]⟩, ⟨0x32ED, 0x32ED, [0x30DB]⟩, ⟨0x32EE, 0x32F2, [0x30DE]⟩,
  ⟨0x32F3, 0x32F3, [0x30E4]⟩, ⟨0x32F4, 0x32F4, [0x30E6]⟩, ⟨0x32F5, 0x32FA, [0x30E8]⟩,
  ⟨0x32FB, 0x32FE, [0x30EF]⟩, ⟨0x32FF, 0x32FF, [0x4EE4, 0x548C]⟩,
  ⟨0x3300, 0x3300, [0x30A2, 0x30CF, 0x309A, 0x30FC, 0x30C8]⟩,
  ⟨0x3301, 0x3301, [0x30A2, 0x30EB, 0x30D5, 0x30A1]⟩,
  ⟨0x3302, 0x3302, [0x30A2, 0x30F3, 0x30D8, 0x309A, 0x30A2]⟩,
  ⟨0x3303, 0x3303, [0x30A2, 0x30FC, 0x30EB]⟩,
  ⟨0x3304, 0x3304, [0x30A4, 0x30CB, 0x30F3, 0x30AF, 0x3099]⟩,
  ⟨0x3305, 0x3305, [0x30A4, 0x30F3, 0x30C1]⟩, ⟨0x3306, 0x3306, [0x30A6, 0x30A9, 0x30F3]⟩,
  ⟨0x3307, 0x3307, [0x30A8, 0x30B9, 0x30AF, 0x30FC, 0x30C8, 0x3099]⟩,
  ⟨0x3308, 0x3308, [0x30A8, 0x30FC, 0x30AB, 0x30FC]⟩, ⟨0x3309, 0x3309, [0x30AA, 0x30F3, 0x30B9]⟩,
  ⟨0x330A, 0x330A, [0x30AA, 0x30FC, 0x30E0]⟩, ⟨0x330B, 0x330B, [0x30AB, 0x30A4, 0x30EA]⟩,
  ⟨0x330C, 0x330C, [0x30AB, 0x30E9, 0x30C3, 0x30C8]⟩,
  ⟨0x330D, 0x330D, [0x30AB, 0x30ED, 0x30EA, 0x30FC]⟩,
  ⟨0x330E, 0x330E, [0x30AB, 0x3099, 0x30ED, 0x30F3]⟩,
  ⟨0x330F, 0x330F, [0x30AB, 0x3099, 0x30F3, 0x30DE]⟩,
  ⟨0x3310, 0x3310, [0x30AD, 0x3099, 0x30AB, 0x3099]⟩,
  ⟨0x3311, 0x3311, [0x30AD, 0x3099, 0x30CB, 0x30FC]⟩,
  ⟨0x3312, 0x3312, [0x30AD, 0x30E5, 0x30EA, 0x30FC]⟩,
  ⟨0x3313, 0x3313, [0x30AD, 0x3099, 0x30EB, 0x30BF, 0x3099, 0x30FC]⟩,
  ⟨0x3314, 0x3314, [0x30AD, 0x30ED]⟩,
  ⟨0x3315, 0x3315, [0x30AD, 0x30ED, 0x30AF, 0x3099, 0x30E9, 0x30E0]⟩,
  ⟨0x3316, 0x3316, [0x30AD, 0x30ED, 0x30E1, 0x30FC, 0x30C8, 0x30EB]⟩,
  ⟨0x3317, 0x3317, [0x30AD, 0x30ED, 0x30EF, 0x30C3, 0x30C8]⟩,
  ⟨0x3318, 0x3318, [0x30AF, 0x3099, 0x30E9, 0x30E0]⟩,
  ⟨0x3319, 0x3319, [0x30AF, 0x3099, 0x30E9, 0x30E0, 0x30C8, 0x30F3]⟩,
  ⟨0x331A, 0x331A, [0x30AF, 0x30EB, 0x30BB, 0x3099, 0x30A4, 0x30ED]⟩,
  ⟨0x331B, 0x331B, [0x30AF, 0x30ED, 0x30FC, 0x30CD]⟩, ⟨0x331C, 0x331C, [0x30B1, 0x30FC, 0x30B9]⟩,
  ⟨0x331D, 0x331D, [0x30B3, 0x30EB, 0x30CA]⟩, ⟨0x331E, 0x331E, [0x30B3, 0x30FC, 0x30DB, 0x309A]⟩,
  ⟨0x331F, 0x331F, [0x30B5, 0x30A4, 0x30AF, 0x30EB]⟩,
  ⟨0x3320, 0x3320, [0x30B5, 0x30F3, 0x30C1, 0x30FC, 0x30E0]⟩,
  ⟨0x3321, 0x3321, [0x30B7, 0x30EA, 0x30F3, 0x30AF, 0x3099]⟩,
  ⟨0x3322, 0x3322, [0x30BB, 0x30F3, 0x30C1]⟩, ⟨0x3323, 0x3323, [0x30BB, 0x30F3, 0x30C8]⟩,
  ⟨0x3324, 0x3324, [0x30BF, 0x3099, 0x30FC, 0x30B9]⟩, ⟨0x3325, 0x3325, [0x30C6, 0x3099, 0x30B7]⟩,
  ⟨0x3326, 0x3326, [0x30C8, 0x3099, 0x30EB]⟩, ⟨0x3327, 0x3327, [0x30C8, 0x30F3]⟩,
  ⟨0x3328, 0x3328, [0x30CA, 0x30CE]⟩, ⟨0x3329, 0x3329, [0x30CE, 0x30C3, 0x30C8]⟩,
  ⟨0x332A, 0x332A, [0x30CF, 0x30A4, 0x30C4]⟩,
  ⟨0x332B, 0x332B, [0x30CF, 0x309A, 0x30FC, 0x30BB, 0x30F3, 0x30C8]⟩,
  ⟨0x332C, 0x332C, [0x30CF, 0x309A, 0x30FC, 0x30C4]⟩,
  ⟨0x332D, 0x332D, [0x30CF, 0x3099, 0x30FC, 0x30EC, 0x30EB]⟩,
  ⟨0x332E, 0x332E, [0x30D2, 0x309A, 0x30A2, 0x30B9, 0x30C8, 0x30EB]⟩,
  ⟨0x332F, 0x332F, [0x30D2, 0x309A, 0x30AF, 0x30EB]⟩, ⟨0x3330, 0x3330, [0x30D2, 0x309A, 0x30B3]⟩,
  ⟨0x3331, 0x3331, [0x30D2, 0x3099, 0x30EB]⟩,
  ⟨0x3332, 0x3332, [0x30D5, 0x30A1, 0x30E9, 0x30C3, 0x30C8, 0x3099]⟩,
  ⟨0x3333, 0x3333, [0x30D5, 0x30A3, 0x30FC, 0x30C8]⟩,
  ⟨0x3334, 0x3334, [0x30D5, 0x3099, 0x30C3, 0x30B7, 0x30A7, 0x30EB]⟩,
  ⟨0x3335, 0x3335, [0x30D5, 0x30E9, 0x30F3]⟩,
  ⟨0x3336, 0x3336, [0x30D8, 0x30AF, 0x30BF, 0x30FC, 0x30EB]⟩,
  ⟨0x3337, 0x3337, [0x30D8, 0x309A, 0x30BD]⟩]

/-- Entries from U+3338 to U+3377. -/
def symbols15 : List Entry := [
  ⟨0x3338, 0x3338, [0x30D8, 0x309A, 0x30CB, 0x30D2]⟩, ⟨0x3339, 0x3339, [0x30D8, 0x30EB, 0x30C4]⟩,
  ⟨0x333A, 0x333A, [0x30D8, 0x309A, 0x30F3, 0x30B9]⟩,
  ⟨0x333B, 0x333B, [0x30D8, 0x309A, 0x30FC, 0x30B7, 0x3099]⟩,
  ⟨0x333C, 0x333C, [0x30D8, 0x3099, 0x30FC, 0x30BF]⟩,
  ⟨0x333D, 0x333D, [0x30DB, 0x309A, 0x30A4, 0x30F3, 0x30C8]⟩,
  ⟨0x333E, 0x333E, [0x30DB, 0x3099, 0x30EB, 0x30C8]⟩, ⟨0x333F, 0x333F, [0x30DB, 0x30F3]⟩,
  ⟨0x3340, 0x3340, [0x30DB, 0x309A, 0x30F3, 0x30C8, 0x3099]⟩,
  ⟨0x3341, 0x3341, [0x30DB, 0x30FC, 0x30EB]⟩, ⟨0x3342, 0x3342, [0x30DB, 0x30FC, 0x30F3]⟩,
  ⟨0x3343, 0x3343, [0x30DE, 0x30A4, 0x30AF, 0x30ED]⟩, ⟨0x3344, 0x3344, [0x30DE, 0x30A4, 0x30EB]⟩,
  ⟨0x3345, 0x3345, [0x30DE, 0x30C3, 0x30CF]⟩, ⟨0x3346, 0x3346, [0x30DE, 0x30EB, 0x30AF]⟩,
  ⟨0x3347, 0x3347, [0x30DE, 0x30F3, 0x30B7, 0x30E7, 0x30F3]⟩,
  ⟨0x3348, 0x3348, [0x30DF, 0x30AF, 0x30ED, 0x30F3]⟩, ⟨0x3349, 0x3349, [0x30DF, 0x30EA]⟩,
  ⟨0x334A, 0x334A, [0x30DF, 0x30EA, 0x30CF, 0x3099, 0x30FC, 0x30EB]⟩,
  ⟨0x334B, 0x334B, [0x30E1, 0x30AB, 0x3099]⟩,
  ⟨0x334C, 0x334C, [0x30E1, 0x30AB, 0x3099, 0x30C8, 0x30F3]⟩,
  ⟨0x334D, 0x334D, [0x30E1, 0x30FC, 0x30C8, 0x30EB]⟩,
  ⟨0x334E, 0x334E, [0x30E4, 0x30FC, 0x30C8, 0x3099]⟩, ⟨0x334F, 0x334F, [0x30E4, 0x30FC, 0x30EB]⟩,
  ⟨0x3350, 0x3350, [0x30E6, 0x30A2, 0x30F3]⟩, ⟨0x3351, 0x3351, [0x30EA, 0x30C3, 0x30C8, 0x30EB]⟩,
  ⟨0x3352, 0x3352, [0x30EA, 0x30E9]⟩, ⟨0x3353, 0x3353, [0x30EB, 0x30D2, 0x309A, 0x30FC]⟩,
  ⟨0x3354, 0x3354, [0x30EB, 0x30FC, 0x30D5, 0x3099, 0x30EB]⟩, ⟨0x3355, 0x3355, [0x30EC, 0x30E0]⟩,
  ⟨0x3356, 0x3356, [0x30EC, 0x30F3, 0x30C8, 0x30B1, 0x3099, 0x30F3]⟩,
  ⟨0x3357, 0x3357, [0x30EF, 0x30C3, 0x30C8]⟩, ⟨0x3358, 0x3358, [0x30, 0x70B9]⟩,
  ⟨0x3359, 0x3359, [0x31, 0x70B9]⟩, ⟨0x335A, 0x335A, [0x32, 0x70B9]⟩,
  ⟨0x335B, 0x335B, [0x33, 0x70B9]⟩, ⟨0x335C, 0x335C, [0x34, 0x70B9]⟩,
  ⟨0x335D, 0x335D, [0x35, 0x70B9]⟩, ⟨0x335E, 0x335E, [0x36, 0x70B9]⟩,
  ⟨0x335F, 0x335F, [0x37, 0x70B9]⟩, ⟨0x3360, 0x3360, [0x38, 0x70B9]⟩,
  ⟨0x3361, 0x3361, [0x39, 0x70B9]⟩, ⟨0x3362, 0x3362, [0x31, 0x30, 0x70B9]⟩,
  ⟨0x3363, 0x3363, [0x31, 0x31, 0x70B9]⟩, ⟨0x3364, 0x3364, [0x31, 0x32, 0x70B9]⟩,
  ⟨0x3365, 0x3365, [0x31, 0x33, 0x70B9]⟩, ⟨0x3366, 0x3366, [0x31, 0x34, 0x70B9]⟩,
  ⟨0x3367, 0x3367, [0x31, 0x35, 0x70B9]⟩, ⟨0x3368, 0x3368, [0x31, 0x36, 0x70B9]⟩,
  ⟨0x3369, 0x3369, [0x31, 0x37, 0x70B9]⟩, ⟨0x336A, 0x336A, [0x31, 0x38, 0x70B9]⟩,
  ⟨0x336B, 0x336B, [0x31, 0x39, 0x70B9]⟩, ⟨0x336C, 0x336C, [0x32, 0x30, 0x70B9]⟩,
  ⟨0x336D, 0x336D, [0x32, 0x31, 0x70B9]⟩, ⟨0x336E, 0x336E, [0x32, 0x32, 0x70B9]⟩,
  ⟨0x336F, 0x336F, [0x32, 0x33, 0x70B9]⟩, ⟨0x3370, 0x3370, [0x32, 0x34, 0x70B9]⟩,
  ⟨0x3371, 0x3371, [0x68, 0x50, 0x61]⟩, ⟨0x3372, 0x3372, [0x64, 0x61]⟩,
  ⟨0x3373, 0x3373, [0x41, 0x55]⟩, ⟨0x3374, 0x3374, [0x62, 0x61, 0x72]⟩,
  ⟨0x3375, 0x3375, [0x6F, 0x56]⟩, ⟨0x3376, 0x3376, [0x70, 0x63]⟩, ⟨0x3377, 0x3377, [0x64, 0x6D]⟩]

/-- Entries from U+3378 to U+33B7. -/
def symbols16 : List Entry := [
  ⟨0x3378, 0x3378, [0x64, 0x6D, 0x32]⟩, ⟨0x3379, 0x3379, [0x64, 0x6D, 0x33]⟩,
  ⟨0x337A, 0x337A, [0x49, 0x55]⟩, ⟨0x337B, 0x337B, [0x5E73, 0x6210]⟩,
  ⟨0x337C, 0x337C, [0x662D, 0x548C]⟩, ⟨0x337D, 0x337D, [0x5927, 0x6B63]⟩,
  ⟨0x337E, 0x337E, [0x660E, 0x6CBB]⟩, ⟨0x337F, 0x337F, [0x682A, 0x5F0F, 0x4F1A, 0x793E]⟩,
  ⟨0x3380, 0x3380, [0x70, 0x41]⟩, ⟨0x3381, 0x3381, [0x6E, 0x41]⟩, ⟨0x3382, 0x3382, [0x3BC, 0x41]⟩,
  ⟨0x3383, 0x3383, [0x6D, 0x41]⟩, ⟨0x3384, 0x3384, [0x6B, 0x41]⟩, ⟨0x3385, 0x3385, [0x4B, 0x42]⟩,
  ⟨0x3386, 0x3386, [0x4D, 0x42]⟩, ⟨0x3387, 0x3387, [0x47, 0x42]⟩,
  ⟨0x3388, 0x3388, [0x63, 0x61, 0x6C]⟩, ⟨0x3389, 0x3389, [0x6B, 0x63, 0x61, 0x6C]⟩,
  ⟨0x338A, 0x338A, [0x70, 0x46]⟩, ⟨0x338B, 0x338B, [0x6E, 0x46]⟩, ⟨0x338C, 0x338C, [0x3BC, 0x46]⟩,
  ⟨0x338D, 0x338D, [0x3BC, 0x67]⟩, ⟨0x338E, 0x338E, [0x6D, 0x67]⟩, ⟨0x338F, 0x338F, [0x6B, 0x67]⟩,
  ⟨0x3390, 0x3390, [0x48, 0x7A]⟩, ⟨0x3391, 0x3391, [0x6B, 0x48, 0x7A]⟩,
  ⟨0x3392, 0x3392, [0x4D, 0x48, 0x7A]⟩, ⟨0x3393, 0x3393, [0x47, 0x48, 0x7A]⟩,
  ⟨0x3394, 0x3394, [0x54, 0x48, 0x7A]⟩, ⟨0x3395, 0x3395, [0x3BC, 0x6C]⟩,
  ⟨0x3396, 0x3396, [0x6D, 0x6C]⟩, ⟨0x3397, 0x3397, [0x64, 0x6C]⟩, ⟨0x3398, 0x3398, [0x6B, 0x6C]⟩,
  ⟨0x3399, 0x3399, [0x66, 0x6D]⟩, ⟨0x339A, 0x339A, [0x6E, 0x6D]⟩, ⟨0x339B, 0x339B, [0x3BC, 0x6D]⟩,
  ⟨0x339C, 0x339C, [0x6D, 0x6D]⟩, ⟨0x339D, 0x339D, [0x63, 0x6D]⟩, ⟨0x339E, 0x339E, [0x6B, 0x6D]⟩,
  ⟨0x339F, 0x339F, [0x6D, 0x6D, 0x32]⟩, ⟨0x33A0, 0x33A0, [0x63, 0x6D, 0x32]⟩,
  ⟨0x33A1, 0x33A1, [0x6D, 0x32]⟩, ⟨0x33A2, 0x33A2, [0x6B, 0x6D, 0x32]⟩,
  ⟨0x33A3, 0x33A3, [0x6D, 0x6D, 0x33]⟩, ⟨0x33A4, 0x33A4, [0x63, 0x6D, 0x33]⟩,
  ⟨0x33A5, 0x33A5, [0x6D, 0x33]⟩, ⟨0x33A6, 0x33A6, [0x6B, 0x6D, 0x33]⟩,
  ⟨0x33A7, 0x33A7, [0x6D, 0x2215, 0x73]⟩, ⟨0x33A8, 0x33A8, [0x6D, 0x2215, 0x73, 0x32]⟩,
  ⟨0x33A9, 0x33A9, [0x50, 0x61]⟩, ⟨0x33AA, 0x33AA, [0x6B, 0x50, 0x61]⟩,
  ⟨0x33AB, 0x33AB, [0x4D, 0x50, 0x61]⟩, ⟨0x33AC, 0x33AC, [0x47, 0x50, 0x61]⟩,
  ⟨0x33AD, 0x33AD, [0x72, 0x61, 0x64]⟩, ⟨0x33AE, 0x33AE, [0x72, 0x61, 0x64, 0x2215, 0x73]⟩,
  ⟨0x33AF, 0x33AF, [0x72, 0x61, 0x64, 0x2215, 0x73, 0x32]⟩, ⟨0x33B0, 0x33B0, [0x70, 0x73]⟩,
  ⟨0x33B1, 0x33B1, [0x6E, 0x73]⟩, ⟨0x33B2, 0x33B2, [0x3BC, 0x73]⟩, ⟨0x33B3, 0x33B3, [0x6D, 0x73]⟩,
  ⟨0x33B4, 0x33B4, [0x70, 0x56]⟩, ⟨0x33B5, 0x33B5, [0x6E, 0x56]⟩, ⟨0x33B6, 0x33B6, [0x3BC, 0x56]⟩,
  ⟨0x33B7, 0x33B7, [0x6D, 0x56]⟩]

/-- Entries from U+33B8 to U+33F7. -/
def symbols17 : List Entry := [
  ⟨0x33B8, 0x33B8, [0x6B, 0x56]⟩, ⟨0x33B9, 0x33B9, [0x4D, 0x56]⟩, ⟨0x33BA, 0x33BA, [0x70, 0x57]⟩,
  ⟨0x33BB, 0x33BB, [0x6E, 0x57]⟩, ⟨0x33BC, 0x33BC, [0x3BC, 0x57]⟩, ⟨0x33BD, 0x33BD, [0x6D, 0x57]⟩,
  ⟨0x33BE, 0x33BE, [0x6B, 0x57]⟩, ⟨0x33BF, 0x33BF, [0x4D, 0x57]⟩, ⟨0x33C0, 0x33C0, [0x6B, 0x3A9]⟩,
  ⟨0x33C1, 0x33C1, [0x4D, 0x3A9]⟩, ⟨0x33C2, 0x33C2, [0x61, 0x2E, 0x6D, 0x2E]⟩,
  ⟨0x33C3, 0x33C3, [0x42, 0x71]⟩, ⟨0x33C4, 0x33C4, [0x63, 0x63]⟩, ⟨0x33C5, 0x33C5, [0x63, 0x64]⟩,
  ⟨0x33C6, 0x33C6, [0x43, 0x2215, 0x6B, 0x67]⟩, ⟨0x33C7, 0x33C7, [0x43, 0x6F, 0x2E]⟩,
  ⟨0x33C8, 0x33C8, [0x64, 0x42]⟩, ⟨0x33C9, 0x33C9, [0x47, 0x79]⟩, ⟨0x33CA, 0x33CA, [0x68, 0x61]⟩,
  ⟨0x33CB, 0x33CB, [0x48, 0x50]⟩, ⟨0x33CC, 0x33CC, [0x69, 0x6E]⟩, ⟨0x33CD, 0x33CD, [0x4B, 0x4B]⟩,
  ⟨0x33CE, 0x33CE, [0x4B, 0x4D]⟩, ⟨0x33CF, 0x33CF, [0x6B, 0x74]⟩, ⟨0x33D0, 0x33D0, [0x6C, 0x6D]⟩,
  ⟨0x33D1, 0x33D1, [0x6C, 0x6E]⟩, ⟨0x33D2, 0x33D2, [0x6C, 0x6F, 0x67]⟩,
  ⟨0x33D3, 0x33D3, [0x6C, 0x78]⟩, ⟨0x33D4, 0x33D4, [0x6D, 0x62]⟩,
  ⟨0x33D5, 0x33D5, [0x6D, 0x69, 0x6C]⟩, ⟨0x33D6, 0x33D6, [0x6D, 0x6F, 0x6C]⟩,
  ⟨0x33D7, 0x33D7, [0x50, 0x48]⟩, ⟨0x33D8, 0x33D8, [0x70, 0x2E, 0x6D, 0x2E]⟩,
  ⟨0x33D9, 0x33D9, [0x50, 0x50, 0x4D]⟩, ⟨0x33DA, 0x33DA, [0x50, 0x52]⟩,
  ⟨0x33DB, 0x33DB, [0x73, 0x72]⟩, ⟨0x33DC, 0x33DC, [0x53, 0x76]⟩, ⟨0x33DD, 0x33DD, [0x57, 0x62]⟩,
  ⟨0x33DE, 0x33DE, [0x56, 0x2215, 0x6D]⟩, ⟨0x33DF, 0x33DF, [0x41, 0x2215, 0x6D]⟩,
  ⟨0x33E0, 0x33E0, [0x31, 0x65E5]⟩, ⟨0x33E1, 0x33E1, [0x32, 0x65E5]⟩,
  ⟨0x33E2, 0x33E2, [0x33, 0x65E5]⟩, ⟨0x33E3, 0x33E3, [0x34, 0x65E5]⟩,
  ⟨0x33E4, 0x33E4, [0x35, 0x65E5]⟩, ⟨0x33E5, 0x33E5, [0x36, 0x65E5]⟩,
  ⟨0x33E6, 0x33E6, [0x37, 0x65E5]⟩, ⟨0x33E7, 0x33E7, [0x38, 0x65E5]⟩,
  ⟨0x33E8, 0x33E8, [0x39, 0x65E5]⟩, ⟨0x33E9, 0x33E9, [0x31, 0x30, 0x65E5]⟩,
  ⟨0x33EA, 0x33EA, [0x31, 0x31, 0x65E5]⟩, ⟨0x33EB, 0x33EB, [0x31, 0x32, 0x65E5]⟩,
  ⟨0x33EC, 0x33EC, [0x31, 0x33, 0x65E5]⟩, ⟨0x33ED, 0x33ED, [0x31, 0x34, 0x65E5]⟩,
  ⟨0x33EE, 0x33EE, [0x31, 0x35, 0x65E5]⟩, ⟨0x33EF, 0x33EF, [0x31, 0x36, 0x65E5]⟩,
  ⟨0x33F0, 0x33F0, [0x31, 0x37, 0x65E5]⟩, ⟨0x33F1, 0x33F1, [0x31, 0x38, 0x65E5]⟩,
  ⟨0x33F2, 0x33F2, [0x31, 0x39, 0x65E5]⟩, ⟨0x33F3, 0x33F3, [0x32, 0x30, 0x65E5]⟩,
  ⟨0x33F4, 0x33F4, [0x32, 0x31, 0x65E5]⟩, ⟨0x33F5, 0x33F5, [0x32, 0x32, 0x65E5]⟩,
  ⟨0x33F6, 0x33F6, [0x32, 0x33, 0x65E5]⟩, ⟨0x33F7, 0x33F7, [0x32, 0x34, 0x65E5]⟩]

/-- Entries from U+33F8 to U+AB69. -/
def symbols18 : List Entry := [
  ⟨0x33F8, 0x33F8, [0x32, 0x35, 0x65E5]⟩, ⟨0x33F9, 0x33F9, [0x32, 0x36, 0x65E5]⟩,
  ⟨0x33FA, 0x33FA, [0x32, 0x37, 0x65E5]⟩, ⟨0x33FB, 0x33FB, [0x32, 0x38, 0x65E5]⟩,
  ⟨0x33FC, 0x33FC, [0x32, 0x39, 0x65E5]⟩, ⟨0x33FD, 0x33FD, [0x33, 0x30, 0x65E5]⟩,
  ⟨0x33FE, 0x33FE, [0x33, 0x31, 0x65E5]⟩, ⟨0x33FF, 0x33FF, [0x67, 0x61, 0x6C]⟩,
  ⟨0xA69C, 0xA69C, [0x44A]⟩, ⟨0xA69D, 0xA69D, [0x44C]⟩, ⟨0xA770, 0xA770, [0xA76F]⟩,
  ⟨0xA7F2, 0xA7F2, [0x43]⟩, ⟨0xA7F3, 0xA7F3, [0x46]⟩, ⟨0xA7F4, 0xA7F4, [0x51]⟩,
  ⟨0xA7F8, 0xA7F8, [0x126]⟩, ⟨0xA7F9, 0xA7F9, [0x153]⟩, ⟨0xAB5C, 0xAB5C, [0xA727]⟩,
  ⟨0xAB5D, 0xAB5D, [0xAB37]⟩, ⟨0xAB5E, 0xAB5E, [0x26B]⟩, ⟨0xAB5F, 0xAB5F, [0xAB52]⟩,
  ⟨0xAB69, 0xAB69, [0x28D]⟩]

/-- The parts of this range, each with the last code point that it decomposes. -/
def symbolsParts : List (Nat × List Entry) := [
  (0x210E, symbols1), (0x216E, symbols2), (0x22EC, symbols3), (0x24A5, symbols4),
  (0x2F22, symbols5), (0x2F62, symbols6), (0x2FA2, symbols7), (0x305C, symbols8),
  (0x3163, symbols9), (0x3213, symbols10), (0x325C, symbols11), (0x32A5, symbols12),
  (0x32EB, symbols13), (0x3337, symbols14), (0x3377, symbols15), (0x33B7, symbols16),
  (0x33F7, symbols17), (0xAB69, symbols18)]

end ApiDocs.Text.Decomposition
