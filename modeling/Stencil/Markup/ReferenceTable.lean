/-!
# Markup — Reference table

The names of character references, each with the code point it stands for, in the order of the
code points.
-/

namespace Stencil.Markup

/-- The names of the references, each with its code point in hexadecimal. -/
def referenceNames : String :=
  "Tab=9 NewLine=a excl=21 QUOT=22 quot=22 num=23 dollar=24 percnt=25 AMP=26 amp=26 apos=27 lpar=28
rpar=29 ast=2a midast=2a plus=2b comma=2c period=2e sol=2f colon=3a semi=3b LT=3c lt=3c
equals=3d GT=3e gt=3e quest=3f commat=40 lbrack=5b lsqb=5b bsol=5c rbrack=5d rsqb=5d Hat=5e
lowbar=5f DiacriticalGrave=60 grave=60 lbrace=7b lcub=7b VerticalLine=7c verbar=7c vert=7c
rbrace=7d rcub=7d NonBreakingSpace=a0 nbsp=a0 iexcl=a1 cent=a2 pound=a3 curren=a4 yen=a5
brvbar=a6 sect=a7 Dot=a8 DoubleDot=a8 die=a8 uml=a8 COPY=a9 copy=a9 ordf=aa laquo=ab not=ac
shy=ad REG=ae circledR=ae reg=ae OverBar=af macr=af strns=af deg=b0 PlusMinus=b1 plusmn=b1 pm=b1
sup2=b2 sup3=b3 DiacriticalAcute=b4 acute=b4 micro=b5 para=b6 CenterDot=b7 centerdot=b7
middot=b7 Cedilla=b8 cedil=b8 sup1=b9 ordm=ba raquo=bb frac14=bc frac12=bd half=bd frac34=be
iquest=bf Agrave=c0 Aacute=c1 Acirc=c2 Atilde=c3 Auml=c4 Aring=c5 AElig=c6 Ccedil=c7 Egrave=c8
Eacute=c9 Ecirc=ca Euml=cb Igrave=cc Iacute=cd Icirc=ce Iuml=cf ETH=d0 Ntilde=d1 Ograve=d2
Oacute=d3 Ocirc=d4 Otilde=d5 Ouml=d6 times=d7 Oslash=d8 Ugrave=d9 Uacute=da Ucirc=db Uuml=dc
Yacute=dd THORN=de szlig=df agrave=e0 aacute=e1 acirc=e2 atilde=e3 auml=e4 aring=e5 aelig=e6
ccedil=e7 egrave=e8 eacute=e9 ecirc=ea euml=eb igrave=ec iacute=ed icirc=ee iuml=ef eth=f0
ntilde=f1 ograve=f2 oacute=f3 ocirc=f4 otilde=f5 ouml=f6 div=f7 divide=f7 oslash=f8 ugrave=f9
uacute=fa ucirc=fb uuml=fc yacute=fd thorn=fe yuml=ff Amacr=100 amacr=101 Abreve=102 abreve=103
Aogon=104 aogon=105 Cacute=106 cacute=107 Ccirc=108 ccirc=109 Cdot=10a cdot=10b Ccaron=10c
ccaron=10d Dcaron=10e dcaron=10f Dstrok=110 dstrok=111 Emacr=112 emacr=113 Edot=116 edot=117
Eogon=118 eogon=119 Ecaron=11a ecaron=11b Gcirc=11c gcirc=11d Gbreve=11e gbreve=11f Gdot=120
gdot=121 Gcedil=122 Hcirc=124 hcirc=125 Hstrok=126 hstrok=127 Itilde=128 itilde=129 Imacr=12a
imacr=12b Iogon=12e iogon=12f Idot=130 imath=131 inodot=131 IJlig=132 ijlig=133 Jcirc=134
jcirc=135 Kcedil=136 kcedil=137 kgreen=138 Lacute=139 lacute=13a Lcedil=13b lcedil=13c
Lcaron=13d lcaron=13e Lmidot=13f lmidot=140 Lstrok=141 lstrok=142 Nacute=143 nacute=144
Ncedil=145 ncedil=146 Ncaron=147 ncaron=148 napos=149 ENG=14a eng=14b Omacr=14c omacr=14d
Odblac=150 odblac=151 OElig=152 oelig=153 Racute=154 racute=155 Rcedil=156 rcedil=157 Rcaron=158
rcaron=159 Sacute=15a sacute=15b Scirc=15c scirc=15d Scedil=15e scedil=15f Scaron=160 scaron=161
Tcedil=162 tcedil=163 Tcaron=164 tcaron=165 Tstrok=166 tstrok=167 Utilde=168 utilde=169
Umacr=16a umacr=16b Ubreve=16c ubreve=16d Uring=16e uring=16f Udblac=170 udblac=171 Uogon=172
uogon=173 Wcirc=174 wcirc=175 Ycirc=176 ycirc=177 Yuml=178 Zacute=179 zacute=17a Zdot=17b
zdot=17c Zcaron=17d zcaron=17e fnof=192 imped=1b5 gacute=1f5 jmath=237 circ=2c6 Hacek=2c7
caron=2c7 Breve=2d8 breve=2d8 DiacriticalDot=2d9 dot=2d9 ring=2da ogon=2db DiacriticalTilde=2dc
tilde=2dc DiacriticalDoubleAcute=2dd dblac=2dd DownBreve=311 UnderBar=332 Alpha=391 Beta=392
Gamma=393 Delta=394 Epsilon=395 Zeta=396 Eta=397 Theta=398 Iota=399 Kappa=39a Lambda=39b Mu=39c
Nu=39d Xi=39e Omicron=39f Pi=3a0 Rho=3a1 Sigma=3a3 Tau=3a4 Upsilon=3a5 Phi=3a6 Chi=3a7 Psi=3a8
Omega=3a9 alpha=3b1 beta=3b2 gamma=3b3 delta=3b4 epsilon=3b5 epsiv=3b5 varepsilon=3b5 zeta=3b6
eta=3b7 theta=3b8 iota=3b9 kappa=3ba lambda=3bb mu=3bc nu=3bd xi=3be omicron=3bf pi=3c0 rho=3c1
sigmaf=3c2 sigmav=3c2 varsigma=3c2 sigma=3c3 tau=3c4 upsi=3c5 upsilon=3c5 phi=3c6 phiv=3c6
varphi=3c6 chi=3c7 psi=3c8 omega=3c9 thetasym=3d1 thetav=3d1 vartheta=3d1 Upsi=3d2 upsih=3d2
straightphi=3d5 piv=3d6 varpi=3d6 Gammad=3dc digamma=3dd gammad=3dd kappav=3f0 varkappa=3f0
rhov=3f1 varrho=3f1 epsi=3f5 straightepsilon=3f5 backepsilon=3f6 bepsi=3f6 IOcy=401 DJcy=402
GJcy=403 Jukcy=404 DScy=405 Iukcy=406 YIcy=407 Jsercy=408 LJcy=409 NJcy=40a TSHcy=40b KJcy=40c
Ubrcy=40e DZcy=40f Acy=410 Bcy=411 Vcy=412 Gcy=413 Dcy=414 IEcy=415 ZHcy=416 Zcy=417 Icy=418
Jcy=419 Kcy=41a Lcy=41b Mcy=41c Ncy=41d Ocy=41e Pcy=41f Rcy=420 Scy=421 Tcy=422 Ucy=423 Fcy=424
KHcy=425 TScy=426 CHcy=427 SHcy=428 SHCHcy=429 HARDcy=42a Ycy=42b SOFTcy=42c Ecy=42d YUcy=42e
YAcy=42f acy=430 bcy=431 vcy=432 gcy=433 dcy=434 iecy=435 zhcy=436 zcy=437 icy=438 jcy=439
kcy=43a lcy=43b mcy=43c ncy=43d ocy=43e pcy=43f rcy=440 scy=441 tcy=442 ucy=443 fcy=444 khcy=445
tscy=446 chcy=447 shcy=448 shchcy=449 hardcy=44a ycy=44b softcy=44c ecy=44d yucy=44e yacy=44f
iocy=451 djcy=452 gjcy=453 jukcy=454 dscy=455 iukcy=456 yicy=457 jsercy=458 ljcy=459 njcy=45a
tshcy=45b kjcy=45c ubrcy=45e dzcy=45f ensp=2002 emsp=2003 emsp13=2004 emsp14=2005 numsp=2007
puncsp=2008 ThinSpace=2009 thinsp=2009 VeryThinSpace=200a hairsp=200a NegativeMediumSpace=200b
NegativeThickSpace=200b NegativeThinSpace=200b NegativeVeryThinSpace=200b ZeroWidthSpace=200b
zwnj=200c zwj=200d lrm=200e rlm=200f dash=2010 hyphen=2010 ndash=2013 mdash=2014 horbar=2015
Verbar=2016 Vert=2016 OpenCurlyQuote=2018 lsquo=2018 CloseCurlyQuote=2019 rsquo=2019 rsquor=2019
lsquor=201a sbquo=201a OpenCurlyDoubleQuote=201c ldquo=201c CloseCurlyDoubleQuote=201d
rdquo=201d rdquor=201d bdquo=201e ldquor=201e dagger=2020 Dagger=2021 ddagger=2021 bull=2022
bullet=2022 nldr=2025 hellip=2026 mldr=2026 permil=2030 pertenk=2031 prime=2032 Prime=2033
tprime=2034 backprime=2035 bprime=2035 lsaquo=2039 rsaquo=203a oline=203e caret=2041 hybull=2043
frasl=2044 bsemi=204f qprime=2057 MediumSpace=205f NoBreak=2060 ApplyFunction=2061 af=2061
InvisibleTimes=2062 it=2062 InvisibleComma=2063 ic=2063 euro=20ac TripleDot=20db tdot=20db
DotDot=20dc Copf=2102 complexes=2102 incare=2105 gscr=210a HilbertSpace=210b Hscr=210b
hamilt=210b Hfr=210c Poincareplane=210c Hopf=210d quaternions=210d planckh=210e hbar=210f
hslash=210f planck=210f plankv=210f Iscr=2110 imagline=2110 Ifr=2111 Im=2111 image=2111
imagpart=2111 Laplacetrf=2112 Lscr=2112 lagran=2112 ell=2113 Nopf=2115 naturals=2115 numero=2116
copysr=2117 weierp=2118 wp=2118 Popf=2119 primes=2119 Qopf=211a rationals=211a Rscr=211b
realine=211b Re=211c Rfr=211c real=211c realpart=211c Ropf=211d reals=211d rx=211e TRADE=2122
trade=2122 Zopf=2124 integers=2124 ohm=2126 mho=2127 Zfr=2128 zeetrf=2128 iiota=2129 angst=212b
Bernoullis=212c Bscr=212c bernou=212c Cayleys=212d Cfr=212d escr=212f Escr=2130 expectation=2130
Fouriertrf=2131 Fscr=2131 Mellintrf=2133 Mscr=2133 phmmat=2133 order=2134 orderof=2134 oscr=2134
alefsym=2135 aleph=2135 beth=2136 gimel=2137 daleth=2138 CapitalDifferentialD=2145 DD=2145
DifferentialD=2146 dd=2146 ExponentialE=2147 ee=2147 exponentiale=2147 ImaginaryI=2148 ii=2148
frac13=2153 frac23=2154 frac15=2155 frac25=2156 frac35=2157 frac45=2158 frac16=2159 frac56=215a
frac18=215b frac38=215c frac58=215d frac78=215e LeftArrow=2190 ShortLeftArrow=2190 larr=2190
leftarrow=2190 slarr=2190 ShortUpArrow=2191 UpArrow=2191 uarr=2191 uparrow=2191 RightArrow=2192
ShortRightArrow=2192 rarr=2192 rightarrow=2192 srarr=2192 DownArrow=2193 ShortDownArrow=2193
darr=2193 downarrow=2193 LeftRightArrow=2194 harr=2194 leftrightarrow=2194 UpDownArrow=2195
updownarrow=2195 varr=2195 UpperLeftArrow=2196 nwarr=2196 nwarrow=2196 UpperRightArrow=2197
nearr=2197 nearrow=2197 LowerRightArrow=2198 searr=2198 searrow=2198 LowerLeftArrow=2199
swarr=2199 swarrow=2199 nlarr=219a nleftarrow=219a nrarr=219b nrightarrow=219b rarrw=219d
rightsquigarrow=219d Larr=219e twoheadleftarrow=219e Uarr=219f Rarr=21a0 twoheadrightarrow=21a0
Darr=21a1 larrtl=21a2 leftarrowtail=21a2 rarrtl=21a3 rightarrowtail=21a3 LeftTeeArrow=21a4
mapstoleft=21a4 UpTeeArrow=21a5 mapstoup=21a5 RightTeeArrow=21a6 map=21a6 mapsto=21a6
DownTeeArrow=21a7 mapstodown=21a7 hookleftarrow=21a9 larrhk=21a9 hookrightarrow=21aa rarrhk=21aa
larrlp=21ab looparrowleft=21ab looparrowright=21ac rarrlp=21ac harrw=21ad
leftrightsquigarrow=21ad nharr=21ae nleftrightarrow=21ae Lsh=21b0 lsh=21b0 Rsh=21b1 rsh=21b1
ldsh=21b2 rdsh=21b3 crarr=21b5 cularr=21b6 curvearrowleft=21b6 curarr=21b7 curvearrowright=21b7
circlearrowleft=21ba olarr=21ba circlearrowright=21bb orarr=21bb LeftVector=21bc
leftharpoonup=21bc lharu=21bc DownLeftVector=21bd leftharpoondown=21bd lhard=21bd
RightUpVector=21be uharr=21be upharpoonright=21be LeftUpVector=21bf uharl=21bf
upharpoonleft=21bf RightVector=21c0 rharu=21c0 rightharpoonup=21c0 DownRightVector=21c1
rhard=21c1 rightharpoondown=21c1 RightDownVector=21c2 dharr=21c2 downharpoonright=21c2
LeftDownVector=21c3 dharl=21c3 downharpoonleft=21c3 RightArrowLeftArrow=21c4
rightleftarrows=21c4 rlarr=21c4 UpArrowDownArrow=21c5 udarr=21c5 LeftArrowRightArrow=21c6
leftrightarrows=21c6 lrarr=21c6 leftleftarrows=21c7 llarr=21c7 upuparrows=21c8 uuarr=21c8
rightrightarrows=21c9 rrarr=21c9 ddarr=21ca downdownarrows=21ca ReverseEquilibrium=21cb
leftrightharpoons=21cb lrhar=21cb Equilibrium=21cc rightleftharpoons=21cc rlhar=21cc
nLeftarrow=21cd nlArr=21cd nLeftrightarrow=21ce nhArr=21ce nRightarrow=21cf nrArr=21cf
DoubleLeftArrow=21d0 Leftarrow=21d0 lArr=21d0 DoubleUpArrow=21d1 Uparrow=21d1 uArr=21d1
DoubleRightArrow=21d2 Implies=21d2 Rightarrow=21d2 rArr=21d2 DoubleDownArrow=21d3 Downarrow=21d3
dArr=21d3 DoubleLeftRightArrow=21d4 Leftrightarrow=21d4 hArr=21d4 iff=21d4
DoubleUpDownArrow=21d5 Updownarrow=21d5 vArr=21d5 nwArr=21d6 neArr=21d7 seArr=21d8 swArr=21d9
Lleftarrow=21da lAarr=21da Rrightarrow=21db rAarr=21db zigrarr=21dd LeftArrowBar=21e4 larrb=21e4
RightArrowBar=21e5 rarrb=21e5 DownArrowUpArrow=21f5 duarr=21f5 loarr=21fd roarr=21fe hoarr=21ff
ForAll=2200 forall=2200 comp=2201 complement=2201 PartialD=2202 part=2202 Exists=2203 exist=2203
NotExists=2204 nexist=2204 nexists=2204 empty=2205 emptyset=2205 emptyv=2205 varnothing=2205
Del=2207 nabla=2207 Element=2208 in=2208 isin=2208 isinv=2208 NotElement=2209 notin=2209
notinva=2209 ReverseElement=220b SuchThat=220b ni=220b niv=220b NotReverseElement=220c
notni=220c notniva=220c Product=220f prod=220f Coproduct=2210 coprod=2210 Sum=2211 sum=2211
minus=2212 MinusPlus=2213 mnplus=2213 mp=2213 dotplus=2214 plusdo=2214 Backslash=2216
setminus=2216 setmn=2216 smallsetminus=2216 ssetmn=2216 lowast=2217 SmallCircle=2218 compfn=2218
Sqrt=221a radic=221a Proportional=221d prop=221d propto=221d varpropto=221d vprop=221d
infin=221e angrt=221f ang=2220 angle=2220 angmsd=2221 measuredangle=2221 angsph=2222
VerticalBar=2223 mid=2223 shortmid=2223 smid=2223 NotVerticalBar=2224 nmid=2224 nshortmid=2224
nsmid=2224 DoubleVerticalBar=2225 par=2225 parallel=2225 shortparallel=2225 spar=2225
NotDoubleVerticalBar=2226 npar=2226 nparallel=2226 nshortparallel=2226 nspar=2226 and=2227
wedge=2227 or=2228 vee=2228 cap=2229 cup=222a Integral=222b int=222b Int=222c iiint=222d
tint=222d ContourIntegral=222e conint=222e oint=222e Conint=222f DoubleContourIntegral=222f
Cconint=2230 cwint=2231 ClockwiseContourIntegral=2232 cwconint=2232
CounterClockwiseContourIntegral=2233 awconint=2233 Therefore=2234 there4=2234 therefore=2234
Because=2235 becaus=2235 because=2235 ratio=2236 Colon=2237 Proportion=2237 dotminus=2238
minusd=2238 mDDot=223a homtht=223b Tilde=223c sim=223c thicksim=223c thksim=223c backsim=223d
bsim=223d ac=223e mstpos=223e acd=223f VerticalTilde=2240 wr=2240 wreath=2240 NotTilde=2241
nsim=2241 EqualTilde=2242 eqsim=2242 esim=2242 TildeEqual=2243 sime=2243 simeq=2243
NotTildeEqual=2244 nsime=2244 nsimeq=2244 TildeFullEqual=2245 cong=2245 simne=2246
NotTildeFullEqual=2247 ncong=2247 TildeTilde=2248 ap=2248 approx=2248 asymp=2248
thickapprox=2248 thkap=2248 NotTildeTilde=2249 nap=2249 napprox=2249 ape=224a approxeq=224a
apid=224b backcong=224c bcong=224c CupCap=224d asympeq=224d Bumpeq=224e HumpDownHump=224e
bump=224e HumpEqual=224f bumpe=224f bumpeq=224f DotEqual=2250 doteq=2250 esdot=2250
doteqdot=2251 eDot=2251 efDot=2252 fallingdotseq=2252 erDot=2253 risingdotseq=2253 Assign=2254
colone=2254 coloneq=2254 ecolon=2255 eqcolon=2255 ecir=2256 eqcirc=2256 circeq=2257 cire=2257
wedgeq=2259 veeeq=225a triangleq=225c trie=225c equest=225f questeq=225f NotEqual=2260 ne=2260
Congruent=2261 equiv=2261 NotCongruent=2262 nequiv=2262 le=2264 leq=2264 GreaterEqual=2265
ge=2265 geq=2265 LessFullEqual=2266 lE=2266 leqq=2266 GreaterFullEqual=2267 gE=2267 geqq=2267
lnE=2268 lneqq=2268 gnE=2269 gneqq=2269 Lt=226a NestedLessLess=226a ll=226a Gt=226b
NestedGreaterGreater=226b gg=226b between=226c twixt=226c NotCupCap=226d NotLess=226e nless=226e
nlt=226e NotGreater=226f ngt=226f ngtr=226f NotLessEqual=2270 nle=2270 nleq=2270
NotGreaterEqual=2271 nge=2271 ngeq=2271 LessTilde=2272 lesssim=2272 lsim=2272 GreaterTilde=2273
gsim=2273 gtrsim=2273 NotLessTilde=2274 nlsim=2274 NotGreaterTilde=2275 ngsim=2275
LessGreater=2276 lessgtr=2276 lg=2276 GreaterLess=2277 gl=2277 gtrless=2277 NotLessGreater=2278
ntlg=2278 NotGreaterLess=2279 ntgl=2279 Precedes=227a pr=227a prec=227a Succeeds=227b sc=227b
succ=227b PrecedesSlantEqual=227c prcue=227c preccurlyeq=227c SucceedsSlantEqual=227d sccue=227d
succcurlyeq=227d PrecedesTilde=227e precsim=227e prsim=227e SucceedsTilde=227f scsim=227f
succsim=227f NotPrecedes=2280 npr=2280 nprec=2280 NotSucceeds=2281 nsc=2281 nsucc=2281 sub=2282
subset=2282 Superset=2283 sup=2283 supset=2283 nsub=2284 nsup=2285 SubsetEqual=2286 sube=2286
subseteq=2286 SupersetEqual=2287 supe=2287 supseteq=2287 NotSubsetEqual=2288 nsube=2288
nsubseteq=2288 NotSupersetEqual=2289 nsupe=2289 nsupseteq=2289 subne=228a subsetneq=228a
supne=228b supsetneq=228b cupdot=228d UnionPlus=228e uplus=228e SquareSubset=228f sqsub=228f
sqsubset=228f SquareSuperset=2290 sqsup=2290 sqsupset=2290 SquareSubsetEqual=2291 sqsube=2291
sqsubseteq=2291 SquareSupersetEqual=2292 sqsupe=2292 sqsupseteq=2292 SquareIntersection=2293
sqcap=2293 SquareUnion=2294 sqcup=2294 CirclePlus=2295 oplus=2295 CircleMinus=2296 ominus=2296
CircleTimes=2297 otimes=2297 osol=2298 CircleDot=2299 odot=2299 circledcirc=229a ocir=229a
circledast=229b oast=229b circleddash=229d odash=229d boxplus=229e plusb=229e boxminus=229f
minusb=229f boxtimes=22a0 timesb=22a0 dotsquare=22a1 sdotb=22a1 RightTee=22a2 vdash=22a2
LeftTee=22a3 dashv=22a3 DownTee=22a4 top=22a4 UpTee=22a5 bot=22a5 bottom=22a5 perp=22a5
models=22a7 DoubleRightTee=22a8 vDash=22a8 Vdash=22a9 Vvdash=22aa VDash=22ab nvdash=22ac
nvDash=22ad nVdash=22ae nVDash=22af prurel=22b0 LeftTriangle=22b2 vartriangleleft=22b2
vltri=22b2 RightTriangle=22b3 vartriangleright=22b3 vrtri=22b3 LeftTriangleEqual=22b4 ltrie=22b4
trianglelefteq=22b4 RightTriangleEqual=22b5 rtrie=22b5 trianglerighteq=22b5 origof=22b6
imof=22b7 multimap=22b8 mumap=22b8 hercon=22b9 intcal=22ba intercal=22ba veebar=22bb barvee=22bd
angrtvb=22be lrtri=22bf Wedge=22c0 bigwedge=22c0 xwedge=22c0 Vee=22c1 bigvee=22c1 xvee=22c1
Intersection=22c2 bigcap=22c2 xcap=22c2 Union=22c3 bigcup=22c3 xcup=22c3 Diamond=22c4 diam=22c4
diamond=22c4 sdot=22c5 Star=22c6 sstarf=22c6 divideontimes=22c7 divonx=22c7 bowtie=22c8
ltimes=22c9 rtimes=22ca leftthreetimes=22cb lthree=22cb rightthreetimes=22cc rthree=22cc
backsimeq=22cd bsime=22cd curlyvee=22ce cuvee=22ce curlywedge=22cf cuwed=22cf Sub=22d0
Subset=22d0 Sup=22d1 Supset=22d1 Cap=22d2 Cup=22d3 fork=22d4 pitchfork=22d4 epar=22d5
lessdot=22d6 ltdot=22d6 gtdot=22d7 gtrdot=22d7 Ll=22d8 Gg=22d9 ggg=22d9 LessEqualGreater=22da
leg=22da lesseqgtr=22da GreaterEqualLess=22db gel=22db gtreqless=22db cuepr=22de
curlyeqprec=22de cuesc=22df curlyeqsucc=22df NotPrecedesSlantEqual=22e0 nprcue=22e0
NotSucceedsSlantEqual=22e1 nsccue=22e1 NotSquareSubsetEqual=22e2 nsqsube=22e2
NotSquareSupersetEqual=22e3 nsqsupe=22e3 lnsim=22e6 gnsim=22e7 precnsim=22e8 prnsim=22e8
scnsim=22e9 succnsim=22e9 NotLeftTriangle=22ea nltri=22ea ntriangleleft=22ea
NotRightTriangle=22eb nrtri=22eb ntriangleright=22eb NotLeftTriangleEqual=22ec nltrie=22ec
ntrianglelefteq=22ec NotRightTriangleEqual=22ed nrtrie=22ed ntrianglerighteq=22ed vellip=22ee
ctdot=22ef utdot=22f0 dtdot=22f1 disin=22f2 isinsv=22f3 isins=22f4 isindot=22f5 notinvc=22f6
notinvb=22f7 isinE=22f9 nisd=22fa xnis=22fb nis=22fc notnivc=22fd notnivb=22fe barwed=2305
barwedge=2305 Barwed=2306 doublebarwedge=2306 LeftCeiling=2308 lceil=2308 RightCeiling=2309
rceil=2309 LeftFloor=230a lfloor=230a RightFloor=230b rfloor=230b drcrop=230c dlcrop=230d
urcrop=230e ulcrop=230f bnot=2310 profline=2312 profsurf=2313 telrec=2315 target=2316
ulcorn=231c ulcorner=231c urcorn=231d urcorner=231d dlcorn=231e llcorner=231e drcorn=231f
lrcorner=231f frown=2322 sfrown=2322 smile=2323 ssmile=2323 cylcty=232d profalar=232e
topbot=2336 ovbar=233d solbar=233f angzarr=237c lmoust=23b0 lmoustache=23b0 rmoust=23b1
rmoustache=23b1 OverBracket=23b4 tbrk=23b4 UnderBracket=23b5 bbrk=23b5 bbrktbrk=23b6
OverParenthesis=23dc UnderParenthesis=23dd OverBrace=23de UnderBrace=23df trpezium=23e2
elinters=23e7 blank=2423 circledS=24c8 oS=24c8 HorizontalLine=2500 boxh=2500 boxv=2502
boxdr=250c boxdl=2510 boxur=2514 boxul=2518 boxvr=251c boxvl=2524 boxhd=252c boxhu=2534
boxvh=253c boxH=2550 boxV=2551 boxdR=2552 boxDr=2553 boxDR=2554 boxdL=2555 boxDl=2556 boxDL=2557
boxuR=2558 boxUr=2559 boxUR=255a boxuL=255b boxUl=255c boxUL=255d boxvR=255e boxVr=255f
boxVR=2560 boxvL=2561 boxVl=2562 boxVL=2563 boxHd=2564 boxhD=2565 boxHD=2566 boxHu=2567
boxhU=2568 boxHU=2569 boxvH=256a boxVh=256b boxVH=256c uhblk=2580 lhblk=2584 block=2588
blk14=2591 blk12=2592 blk34=2593 Square=25a1 squ=25a1 square=25a1 FilledVerySmallSquare=25aa
blacksquare=25aa squarf=25aa squf=25aa EmptyVerySmallSquare=25ab rect=25ad marker=25ae
fltns=25b1 bigtriangleup=25b3 xutri=25b3 blacktriangle=25b4 utrif=25b4 triangle=25b5 utri=25b5
blacktriangleright=25b8 rtrif=25b8 rtri=25b9 triangleright=25b9 bigtriangledown=25bd xdtri=25bd
blacktriangledown=25be dtrif=25be dtri=25bf triangledown=25bf blacktriangleleft=25c2 ltrif=25c2
ltri=25c3 triangleleft=25c3 loz=25ca lozenge=25ca cir=25cb tridot=25ec bigcirc=25ef xcirc=25ef
ultri=25f8 urtri=25f9 lltri=25fa EmptySmallSquare=25fb FilledSmallSquare=25fc bigstar=2605
starf=2605 star=2606 phone=260e female=2640 male=2642 spades=2660 spadesuit=2660 clubs=2663
clubsuit=2663 hearts=2665 heartsuit=2665 diamondsuit=2666 diams=2666 sung=266a flat=266d
natur=266e natural=266e sharp=266f check=2713 checkmark=2713 cross=2717 malt=2720 maltese=2720
sext=2736 VerticalSeparator=2758 lbbrk=2772 rbbrk=2773 bsolhsub=27c8 suphsol=27c9
LeftDoubleBracket=27e6 lobrk=27e6 RightDoubleBracket=27e7 robrk=27e7 LeftAngleBracket=27e8
lang=27e8 langle=27e8 RightAngleBracket=27e9 rang=27e9 rangle=27e9 Lang=27ea Rang=27eb
loang=27ec roang=27ed LongLeftArrow=27f5 longleftarrow=27f5 xlarr=27f5 LongRightArrow=27f6
longrightarrow=27f6 xrarr=27f6 LongLeftRightArrow=27f7 longleftrightarrow=27f7 xharr=27f7
DoubleLongLeftArrow=27f8 Longleftarrow=27f8 xlArr=27f8 DoubleLongRightArrow=27f9
Longrightarrow=27f9 xrArr=27f9 DoubleLongLeftRightArrow=27fa Longleftrightarrow=27fa xhArr=27fa
longmapsto=27fc xmap=27fc dzigrarr=27ff nvlArr=2902 nvrArr=2903 nvHarr=2904 Map=2905 lbarr=290c
bkarow=290d rbarr=290d lBarr=290e dbkarow=290f rBarr=290f RBarr=2910 drbkarow=2910 DDotrahd=2911
UpArrowBar=2912 DownArrowBar=2913 Rarrtl=2916 latail=2919 ratail=291a lAtail=291b rAtail=291c
larrfs=291d rarrfs=291e larrbfs=291f rarrbfs=2920 nwarhk=2923 nearhk=2924 hksearow=2925
searhk=2925 hkswarow=2926 swarhk=2926 nwnear=2927 nesear=2928 toea=2928 seswar=2929 tosa=2929
swnwar=292a rarrc=2933 cudarrr=2935 ldca=2936 rdca=2937 cudarrl=2938 larrpl=2939 curarrm=293c
cularrp=293d rarrpl=2945 harrcir=2948 Uarrocir=2949 lurdshar=294a ldrushar=294b
LeftRightVector=294e RightUpDownVector=294f DownLeftRightVector=2950 LeftUpDownVector=2951
LeftVectorBar=2952 RightVectorBar=2953 RightUpVectorBar=2954 RightDownVectorBar=2955
DownLeftVectorBar=2956 DownRightVectorBar=2957 LeftUpVectorBar=2958 LeftDownVectorBar=2959
LeftTeeVector=295a RightTeeVector=295b RightUpTeeVector=295c RightDownTeeVector=295d
DownLeftTeeVector=295e DownRightTeeVector=295f LeftUpTeeVector=2960 LeftDownTeeVector=2961
lHar=2962 uHar=2963 rHar=2964 dHar=2965 luruhar=2966 ldrdhar=2967 ruluhar=2968 rdldhar=2969
lharul=296a llhard=296b rharul=296c lrhard=296d UpEquilibrium=296e udhar=296e
ReverseUpEquilibrium=296f duhar=296f RoundImplies=2970 erarr=2971 simrarr=2972 larrsim=2973
rarrsim=2974 rarrap=2975 ltlarr=2976 gtrarr=2978 subrarr=2979 suplarr=297b lfisht=297c
rfisht=297d ufisht=297e dfisht=297f lopar=2985 ropar=2986 lbrke=298b rbrke=298c lbrkslu=298d
rbrksld=298e lbrksld=298f rbrkslu=2990 langd=2991 rangd=2992 lparlt=2993 rpargt=2994 gtlPar=2995
ltrPar=2996 vzigzag=299a vangrt=299c angrtvbd=299d ange=29a4 range=29a5 dwangle=29a6
uwangle=29a7 angmsdaa=29a8 angmsdab=29a9 angmsdac=29aa angmsdad=29ab angmsdae=29ac angmsdaf=29ad
angmsdag=29ae angmsdah=29af bemptyv=29b0 demptyv=29b1 cemptyv=29b2 raemptyv=29b3 laemptyv=29b4
ohbar=29b5 omid=29b6 opar=29b7 operp=29b9 olcross=29bb odsold=29bc olcir=29be ofcir=29bf
olt=29c0 ogt=29c1 cirscir=29c2 cirE=29c3 solb=29c4 bsolb=29c5 boxbox=29c9 trisb=29cd
rtriltri=29ce LeftTriangleBar=29cf RightTriangleBar=29d0 iinfin=29dc infintie=29dd nvinfin=29de
eparsl=29e3 smeparsl=29e4 eqvparsl=29e5 blacklozenge=29eb lozf=29eb RuleDelayed=29f4 dsol=29f6
bigodot=2a00 xodot=2a00 bigoplus=2a01 xoplus=2a01 bigotimes=2a02 xotime=2a02 biguplus=2a04
xuplus=2a04 bigsqcup=2a06 xsqcup=2a06 iiiint=2a0c qint=2a0c fpartint=2a0d cirfnint=2a10
awint=2a11 rppolint=2a12 scpolint=2a13 npolint=2a14 pointint=2a15 quatint=2a16 intlarhk=2a17
pluscir=2a22 plusacir=2a23 simplus=2a24 plusdu=2a25 plussim=2a26 plustwo=2a27 mcomma=2a29
minusdu=2a2a loplus=2a2d roplus=2a2e Cross=2a2f timesd=2a30 timesbar=2a31 smashp=2a33
lotimes=2a34 rotimes=2a35 otimesas=2a36 Otimes=2a37 odiv=2a38 triplus=2a39 triminus=2a3a
tritime=2a3b intprod=2a3c iprod=2a3c amalg=2a3f capdot=2a40 ncup=2a42 ncap=2a43 capand=2a44
cupor=2a45 cupcap=2a46 capcup=2a47 cupbrcap=2a48 capbrcup=2a49 cupcup=2a4a capcap=2a4b
ccups=2a4c ccaps=2a4d ccupssm=2a50 And=2a53 Or=2a54 andand=2a55 oror=2a56 orslope=2a57
andslope=2a58 andv=2a5a orv=2a5b andd=2a5c ord=2a5d wedbar=2a5f sdote=2a66 simdot=2a6a
congdot=2a6d easter=2a6e apacir=2a6f apE=2a70 eplus=2a71 pluse=2a72 Esim=2a73 Colone=2a74
Equal=2a75 ddotseq=2a77 eDDot=2a77 equivDD=2a78 ltcir=2a79 gtcir=2a7a ltquest=2a7b gtquest=2a7c
LessSlantEqual=2a7d leqslant=2a7d les=2a7d GreaterSlantEqual=2a7e geqslant=2a7e ges=2a7e
lesdot=2a7f gesdot=2a80 lesdoto=2a81 gesdoto=2a82 lesdotor=2a83 gesdotol=2a84 lap=2a85
lessapprox=2a85 gap=2a86 gtrapprox=2a86 lne=2a87 lneq=2a87 gne=2a88 gneq=2a88 lnap=2a89
lnapprox=2a89 gnap=2a8a gnapprox=2a8a lEg=2a8b lesseqqgtr=2a8b gEl=2a8c gtreqqless=2a8c
lsime=2a8d gsime=2a8e lsimg=2a8f gsiml=2a90 lgE=2a91 glE=2a92 lesges=2a93 gesles=2a94 els=2a95
eqslantless=2a95 egs=2a96 eqslantgtr=2a96 elsdot=2a97 egsdot=2a98 el=2a99 eg=2a9a siml=2a9d
simg=2a9e simlE=2a9f simgE=2aa0 LessLess=2aa1 GreaterGreater=2aa2 glj=2aa4 gla=2aa5 ltcc=2aa6
gtcc=2aa7 lescc=2aa8 gescc=2aa9 smt=2aaa lat=2aab smte=2aac late=2aad bumpE=2aae
PrecedesEqual=2aaf pre=2aaf preceq=2aaf SucceedsEqual=2ab0 sce=2ab0 succeq=2ab0 prE=2ab3
scE=2ab4 precneqq=2ab5 prnE=2ab5 scnE=2ab6 succneqq=2ab6 prap=2ab7 precapprox=2ab7 scap=2ab8
succapprox=2ab8 precnapprox=2ab9 prnap=2ab9 scnap=2aba succnapprox=2aba Pr=2abb Sc=2abc
subdot=2abd supdot=2abe subplus=2abf supplus=2ac0 submult=2ac1 supmult=2ac2 subedot=2ac3
supedot=2ac4 subE=2ac5 subseteqq=2ac5 supE=2ac6 supseteqq=2ac6 subsim=2ac7 supsim=2ac8
subnE=2acb subsetneqq=2acb supnE=2acc supsetneqq=2acc csub=2acf csup=2ad0 csube=2ad1 csupe=2ad2
subsup=2ad3 supsub=2ad4 subsub=2ad5 supsup=2ad6 suphsub=2ad7 supdsub=2ad8 forkv=2ad9
topfork=2ada mlcp=2adb Dashv=2ae4 DoubleLeftTee=2ae4 Vdashl=2ae6 Barv=2ae7 vBar=2ae8 vBarv=2ae9
Vbar=2aeb Not=2aec bNot=2aed rnmid=2aee cirmid=2aef midcir=2af0 topcir=2af1 nhpar=2af2
parsim=2af3 parsl=2afd fflig=fb00 filig=fb01 fllig=fb02 ffilig=fb03 ffllig=fb04 Ascr=1d49c
Cscr=1d49e Dscr=1d49f Gscr=1d4a2 Jscr=1d4a5 Kscr=1d4a6 Nscr=1d4a9 Oscr=1d4aa Pscr=1d4ab
Qscr=1d4ac Sscr=1d4ae Tscr=1d4af Uscr=1d4b0 Vscr=1d4b1 Wscr=1d4b2 Xscr=1d4b3 Yscr=1d4b4
Zscr=1d4b5 ascr=1d4b6 bscr=1d4b7 cscr=1d4b8 dscr=1d4b9 fscr=1d4bb hscr=1d4bd iscr=1d4be
jscr=1d4bf kscr=1d4c0 lscr=1d4c1 mscr=1d4c2 nscr=1d4c3 pscr=1d4c5 qscr=1d4c6 rscr=1d4c7
sscr=1d4c8 tscr=1d4c9 uscr=1d4ca vscr=1d4cb wscr=1d4cc xscr=1d4cd yscr=1d4ce zscr=1d4cf
Afr=1d504 Bfr=1d505 Dfr=1d507 Efr=1d508 Ffr=1d509 Gfr=1d50a Jfr=1d50d Kfr=1d50e Lfr=1d50f
Mfr=1d510 Nfr=1d511 Ofr=1d512 Pfr=1d513 Qfr=1d514 Sfr=1d516 Tfr=1d517 Ufr=1d518 Vfr=1d519
Wfr=1d51a Xfr=1d51b Yfr=1d51c afr=1d51e bfr=1d51f cfr=1d520 dfr=1d521 efr=1d522 ffr=1d523
gfr=1d524 hfr=1d525 ifr=1d526 jfr=1d527 kfr=1d528 lfr=1d529 mfr=1d52a nfr=1d52b ofr=1d52c
pfr=1d52d qfr=1d52e rfr=1d52f sfr=1d530 tfr=1d531 ufr=1d532 vfr=1d533 wfr=1d534 xfr=1d535
yfr=1d536 zfr=1d537 Aopf=1d538 Bopf=1d539 Dopf=1d53b Eopf=1d53c Fopf=1d53d Gopf=1d53e Iopf=1d540
Jopf=1d541 Kopf=1d542 Lopf=1d543 Mopf=1d544 Oopf=1d546 Sopf=1d54a Topf=1d54b Uopf=1d54c
Vopf=1d54d Wopf=1d54e Xopf=1d54f Yopf=1d550 aopf=1d552 bopf=1d553 copf=1d554 dopf=1d555
eopf=1d556 fopf=1d557 gopf=1d558 hopf=1d559 iopf=1d55a jopf=1d55b kopf=1d55c lopf=1d55d
mopf=1d55e nopf=1d55f oopf=1d560 popf=1d561 qopf=1d562 ropf=1d563 sopf=1d564 topf=1d565
uopf=1d566 vopf=1d567 wopf=1d568 xopf=1d569 yopf=1d56a zopf=1d56b"

end Stencil.Markup
